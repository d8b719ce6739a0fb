import ModelPort.Lib.Except
import ModelPort.Routing.Config

/-!
# Model profiles

What a model can do is put together from up to four layers: the catalog's entry for the provider
and for the model, the provider's defaults, and the profile of the model, which a control override
replaces. Each layer is validated alone, and each field is taken from the strongest layer that
sets it, so the fields of one rule may come from different layers.

* `resolved_consistent_iff`: the profile is consistent exactly when no two different layers
  disagree.
* `overrides_compose`: overrides applied in turn are the merged override applied once.
-/

namespace ModelPort.Routing

open Except List Option

/-- Whether a feature is there. -/
inductive CapabilitySupport where
  | supported | unsupported | unknown
  deriving DecidableEq

/-- A kind of input. -/
inductive InputModality where
  | text | image
  deriving DecidableEq

/-- How long to reason. -/
inductive ReasoningEffort where
  | off | minimal | low | medium | high | xhigh | max
  deriving DecidableEq

/-- How reasoning is asked for. -/
inductive ReasoningDialect where
  | none | nativeAnthropic | openai | deepseek | openrouter | qwen | zai | stringThinking | llamaCpp
  deriving DecidableEq

/-- What is sent back of it. -/
inductive ReasoningReplay where
  | none | sameProtocol
  deriving DecidableEq

/-- Where a value comes from. -/
inductive ModelProfileSource where
  | catalog | config | control | discovery | providerDefault
  deriving DecidableEq

/-- The provider's names for efforts. -/
abbrev EffortMap := AList fun _ : ReasoningEffort => String

/-- One layer of a profile. -/
structure ModelProfileOverride where
  displayName : Option String := none
  family : Option String := none
  contextWindow : Option ℕ := none
  maxOutputTokens : Option ℕ := none
  inputModalities : Option (List InputModality) := none
  toolUse : Option CapabilitySupport := none
  toolChoice : Option CapabilitySupport := none
  parallelToolCalls : Option CapabilitySupport := none
  strictToolSchema : Option CapabilitySupport := none
  reasoning : Option CapabilitySupport := none
  reasoningEfforts : Option (List ReasoningEffort) := none
  reasoningEffortMap : EffortMap := ∅
  defaultReasoningEffort : Option ReasoningEffort := none
  reasoningDialect : Option ReasoningDialect := none
  reasoningReplay : Option ReasoningReplay := none
  source : Option ModelProfileSource := none
  deriving DecidableEq

/-- What the next layer sets replaces what this one sets; the effort maps are united. -/
def ModelProfileOverride.merge (o next : ModelProfileOverride) : ModelProfileOverride where
  displayName := next.displayName.or o.displayName
  family := next.family.or o.family
  contextWindow := next.contextWindow.or o.contextWindow
  maxOutputTokens := next.maxOutputTokens.or o.maxOutputTokens
  inputModalities := next.inputModalities.or o.inputModalities
  toolUse := next.toolUse.or o.toolUse
  toolChoice := next.toolChoice.or o.toolChoice
  parallelToolCalls := next.parallelToolCalls.or o.parallelToolCalls
  strictToolSchema := next.strictToolSchema.or o.strictToolSchema
  reasoning := next.reasoning.or o.reasoning
  reasoningEfforts := next.reasoningEfforts.or o.reasoningEfforts
  reasoningEffortMap := next.reasoningEffortMap ∪ o.reasoningEffortMap
  defaultReasoningEffort := next.defaultReasoningEffort.or o.defaultReasoningEffort
  reasoningDialect := next.reasoningDialect.or o.reasoningDialect
  reasoningReplay := next.reasoningReplay.or o.reasoningReplay
  source := next.source.or o.source

/-! ### Validation -/

def isBounded (maxLen : ℕ) (text : String) : Bool :=
  trim text ≠ "" && byteLen text ≤ maxLen && !hasControl text

def checkText (field : String) (maxLen : ℕ) (text : Option String) : Except String Unit :=
  ensure (text.all (isBounded maxLen)) (field
    ++ " must be non-empty, contain no control characters, and be at most " ++ toString maxLen
    ++ " bytes")

variable (value : ModelProfileOverride)

def checkEfforts (efforts : List ReasoningEffort) : Except String Unit := do
  ensure efforts.Nodup "reasoning_efforts cannot contain duplicates"
  ensure (value.defaultReasoningEffort.all efforts.contains)
    "default_reasoning_effort must be listed in reasoning_efforts"
  ensure (value.reasoningEffortMap.keys.all efforts.contains)
    "reasoning_effort_map keys must be listed in reasoning_efforts"

def checkModalities (modalities : List InputModality) : Except String Unit := do
  ensure (!modalities.isEmpty && modalities.Nodup)
    "input_modalities must be non-empty and contain no duplicates"
  ensure (modalities.contains .text)
    "input_modalities must include text in the current protocol slice"

def validateModelProfileOverride : Except String Unit := do
  checkText "display_name" 240 value.displayName
  checkText "family" 120 value.family
  ensure (value.contextWindow ≠ some 0 && value.maxOutputTokens ≠ some 0)
    "token limits must be positive"
  ensure (value.contextWindow.all fun context => value.maxOutputTokens.all (· ≤ context))
    "max_output_tokens cannot exceed context_window"
  value.inputModalities.elim (.ok ()) checkModalities
  value.reasoningEfforts.elim (.ok ()) (checkEfforts value)
  ensure (value.reasoningEffortMap.entries.all fun entry => isBounded 64 entry.2)
    "reasoning_effort_map values must be non-empty, bounded strings without control characters"
  ensure (value.toolUse.all (· = .supported) || !([value.toolChoice, value.parallelToolCalls,
      value.strictToolSchema].contains (some .supported)))
    "advanced tool features cannot be supported when tool_use is not supported"
  ensure (!(value.reasoning = some .supported && value.reasoningDialect = some .none))
    "reasoning_dialect cannot be none when reasoning is supported"

/-- A layer that passes its own validation. -/
abbrev Accepted : Prop :=
  validateModelProfileOverride value = .ok ()

/-- The rules of a profile, for the fields that one layer sets. -/
structure Fits (o : ModelProfileOverride) : Prop where
  output_le : ∀ output ∈ o.maxOutputTokens, ∀ context ∈ o.contextWindow, output ≤ context
  tools : o.toolChoice = some .supported ∨ o.parallelToolCalls = some .supported →
    ∀ use ∈ o.toolUse, use = .supported
  default_mem : ∀ effort ∈ o.defaultReasoningEffort, ∀ efforts ∈ o.reasoningEfforts,
    effort ∈ efforts
  mapped_mem : ∀ effort ∈ o.reasoningEffortMap, ∀ efforts ∈ o.reasoningEfforts, effort ∈ efforts

/-- **An accepted layer fits together.** -/
lemma Accepted.fits {o : ModelProfileOverride} (h : Accepted o) : Fits o := by
  simp only [Accepted, validateModelProfileOverride, Except.bind_eq_ok, ensure_eq_ok] at h
  obtain ⟨_, -, _, -, _, -, _, hlim, _, -, _, heff, _, -, _, htools, -⟩ := h
  have hlist : ∀ efforts ∈ o.reasoningEfforts,
      o.defaultReasoningEffort.all efforts.contains ∧
        o.reasoningEffortMap.keys.all efforts.contains := by
    intro efforts h
    rw [Option.mem_def.1 h] at heff
    simp only [elim_some, checkEfforts, Except.bind_eq_ok, ensure_eq_ok] at heff
    obtain ⟨_, -, _, hdef, hmap⟩ := heff
    exact ⟨hdef, hmap⟩
  refine ⟨fun output ho context hc => ?_, fun hfeat use huse => ?_,
    fun effort he efforts hes => ?_, fun effort he efforts hes => ?_⟩
  · rw [Option.mem_def.1 ho, Option.mem_def.1 hc] at hlim
    simpa using hlim
  · rw [Option.mem_def.1 huse] at htools
    rcases hfeat with h | h <;> simpa [h] using htools
  · have hdef := (hlist efforts hes).1
    rw [Option.mem_def.1 he] at hdef
    simpa using hdef
  · simpa using all_eq_true.1 (hlist efforts hes).2 effort (AList.mem_keys.1 he)

/-! ### Resolution -/

/-- The part of a provider's tool configuration that profiles are based on. -/
structure ToolUseConfig where
  supported : Bool
  toolChoice : Bool
  parallelToolCalls : Bool

/-- What a model can do. -/
structure ModelProfile where
  model : String
  displayName : Option String := none
  family : Option String := none
  contextWindow : Option ℕ := none
  maxOutputTokens : Option ℕ := none
  inputModalities : List InputModality := [.text]
  toolUse : CapabilitySupport
  toolChoice : CapabilitySupport
  parallelToolCalls : CapabilitySupport
  strictToolSchema : CapabilitySupport := .unknown
  reasoning : CapabilitySupport := .unknown
  reasoningEfforts : List ReasoningEffort := []
  reasoningEffortMap : EffortMap := ∅
  defaultReasoningEffort : Option ReasoningEffort := none
  reasoningDialect : ReasoningDialect := .none
  reasoningReplay : ReasoningReplay := .none
  source : ModelProfileSource := .providerDefault

def support (value : Bool) : CapabilitySupport := if value then .supported else .unsupported

/-- The provider's own flags, as a layer. -/
def ToolUseConfig.layer (toolUse : ToolUseConfig) : ModelProfileOverride where
  toolUse := some (support toolUse.supported)
  toolChoice := some (support (toolUse.supported && toolUse.toolChoice))
  parallelToolCalls := some (support (toolUse.supported && toolUse.parallelToolCalls))
  reasoningEfforts := some []

lemma ToolUseConfig.fits_layer (toolUse : ToolUseConfig) : Fits toolUse.layer := by
  refine ⟨nofun, fun hfeat use huse => ?_, nofun, nofun⟩
  obtain rfl := Option.some.inj huse
  cases hsupported : toolUse.supported with
  | true => rfl
  | false => simp [layer, support, hsupported] at hfeat

namespace ModelProfile

/-- The profile below all layers. -/
def fromProvider (model : String) (toolUse : ToolUseConfig) : ModelProfile where
  model := model
  toolUse := support toolUse.supported
  toolChoice := support (toolUse.supported && toolUse.toolChoice)
  parallelToolCalls := support (toolUse.supported && toolUse.parallelToolCalls)

def apply (p : ModelProfile) (value : ModelProfileOverride) (source : ModelProfileSource) :
    ModelProfile where
  model := p.model
  displayName := value.displayName.or p.displayName
  family := value.family.or p.family
  contextWindow := value.contextWindow.or p.contextWindow
  maxOutputTokens := value.maxOutputTokens.or p.maxOutputTokens
  inputModalities := value.inputModalities.getD p.inputModalities
  toolUse := value.toolUse.getD p.toolUse
  toolChoice := value.toolChoice.getD p.toolChoice
  parallelToolCalls := value.parallelToolCalls.getD p.parallelToolCalls
  strictToolSchema := value.strictToolSchema.getD p.strictToolSchema
  reasoning := value.reasoning.getD p.reasoning
  reasoningEfforts := value.reasoningEfforts.getD p.reasoningEfforts
  reasoningEffortMap := value.reasoningEffortMap ∪ p.reasoningEffortMap
  defaultReasoningEffort := value.defaultReasoningEffort.or p.defaultReasoningEffort
  reasoningDialect := value.reasoningDialect.getD p.reasoningDialect
  reasoningReplay := value.reasoningReplay.getD p.reasoningReplay
  source :=
    -- a layer that sets no other field does not become the source
    if { value with source := none } = ({} : ModelProfileOverride) then p.source
    else value.source.getD source

/-- The rules that a single profile must satisfy. -/
structure Consistent (p : ModelProfile) : Prop where
  output_le : ∀ output ∈ p.maxOutputTokens, ∀ context ∈ p.contextWindow, output ≤ context
  tools : p.toolChoice = .supported ∨ p.parallelToolCalls = .supported → p.toolUse = .supported
  default_mem : ∀ effort ∈ p.defaultReasoningEffort, effort ∈ p.reasoningEfforts
  mapped_mem : ∀ effort ∈ p.reasoningEffortMap, effort ∈ p.reasoningEfforts

end ModelProfile

/-- A provider of the catalog. -/
structure CatalogProvider where
  defaults : ModelProfileOverride := {}
  models : StringMap ModelProfileOverride := ∅

/-- The catalog's entry for the provider, or for providers of its protocol. -/
def catalogProvider (catalog : StringMap CatalogProvider) (providerId : String)
    (protocol : ProviderProtocol) : Option CatalogProvider :=
  (catalog.lookup providerId).or <| catalog.lookup <|
    match protocol with
    | .openaiCompat => "custom"
    | .anthropic => "generic_anthropic"

lemma mem_of_catalogProvider {catalog : StringMap CatalogProvider} {providerId : String}
    {protocol : ProviderProtocol} {provider : CatalogProvider}
    (h : catalogProvider catalog providerId protocol = some provider) :
    ∃ id, ⟨id, provider⟩ ∈ catalog.entries := by
  rcases or_eq_some_iff.1 h with h | ⟨-, h⟩ <;> exact ⟨_, AList.mem_lookup_iff.1 h⟩

def resolveModelProfile (catalog : StringMap CatalogProvider) (providerId : String)
    (protocol : ProviderProtocol) (model : String) (toolUse : ToolUseConfig)
    (providerDefaults : ModelProfileOverride) (configured : Option ModelProfileOverride) :
    ModelProfile :=
  let profile := ModelProfile.fromProvider model toolUse
  let profile :=
    match catalogProvider catalog providerId protocol with
    | none => profile
    | some provider =>
      let profile := profile.apply provider.defaults .catalog
      match provider.models.lookup model with
      | none => profile
      | some modelProfile => profile.apply modelProfile .catalog
  let profile := profile.apply providerDefaults .config
  match configured with
  | none => profile
  | some configured => profile.apply configured .config

/-- A control override of a model. -/
structure ProviderModelOverrideRecord where
  displayName : Option String := none
  family : Option String := none
  contextWindow : Option ℕ := none
  profile : ModelProfileOverride := {}
  status : String

/-- The profile that is validated when the override is stored. -/
def ProviderModelOverrideRecord.effectiveProfile (r : ProviderModelOverrideRecord) :
    ModelProfileOverride :=
  ModelProfileOverride.merge
    { displayName := r.displayName, family := r.family, contextWindow := r.contextWindow }
    r.profile

/-- The catalog, the configuration of a provider and the overrides of its models, each accepted by
its own validation. -/
structure ProfileSources where
  catalog : StringMap CatalogProvider
  providerId : String
  protocol : ProviderProtocol
  toolUse : ToolUseConfig
  defaults : ModelProfileOverride
  configured : StringMap ModelProfileOverride
  overrides : StringMap ProviderModelOverrideRecord
  catalog_accepted : ∀ provider ∈ catalog.entries, Accepted provider.2.defaults ∧
    ∀ entry ∈ provider.2.models.entries, Accepted entry.2
  defaults_accepted : Accepted defaults
  configured_accepted : ∀ entry ∈ configured.entries, Accepted entry.2
  overrides_accepted : ∀ entry ∈ overrides.entries, Accepted entry.2.effectiveProfile

variable {α : Type}

namespace ProfileSources

variable (s : ProfileSources) (model : String)

/-- The profile of a model: an override that is not disabled replaces the configured one. -/
def modelProfile : Option ModelProfileOverride :=
  match s.overrides.lookup model with
  | none => s.configured.lookup model
  | some r =>
    if r.status = "disabled" then s.configured.lookup model
    else some { r.effectiveProfile with source := some .control }

/-- The profile the gateway works with. -/
def resolve : ModelProfile :=
  resolveModelProfile s.catalog s.providerId s.protocol model s.toolUse s.defaults
    (s.modelProfile model)

/-- The layers of a model's profile, the strongest first. -/
def layers : List (ModelProfileOverride × ModelProfileSource) :=
  (s.modelProfile model).toList.map (·, .config) ++ (s.defaults, .config) ::
    (catalogProvider s.catalog s.providerId s.protocol).elim [] fun provider =>
      (provider.models.lookup model).toList.map (·, .catalog) ++ [(provider.defaults, .catalog)]

/-- All layers, the provider's own flags at the bottom. -/
def stack : List ModelProfileOverride := (s.layers model).map Prod.fst ++ [s.toolUse.layer]

/-- The layer decides a field: it sets it, and no stronger layer does. -/
def Decides (field : ModelProfileOverride → Option α) (layer : ModelProfileOverride) (value : α) :
    Prop :=
  ∃ stronger weaker, s.stack model = stronger ++ layer :: weaker ∧ field layer = some value ∧
    ∀ o ∈ stronger, field o = none

/-- What the first layer decides, or maps, does not contradict what the second one decides. -/
structure Agree (a b : ModelProfileOverride) : Prop where
  output_le : ∀ output, s.Decides model (·.maxOutputTokens) a output →
    ∀ context, s.Decides model (·.contextWindow) b context → output ≤ context
  tools : s.Decides model (·.toolChoice) a .supported ∨
      s.Decides model (·.parallelToolCalls) a .supported →
    ∀ use, s.Decides model (·.toolUse) b use → use = .supported
  default_mem : ∀ effort, s.Decides model (·.defaultReasoningEffort) a effort →
    ∀ efforts, s.Decides model (·.reasoningEfforts) b efforts → effort ∈ efforts
  mapped_mem : ∀ effort ∈ a.reasoningEffortMap,
    ∀ efforts, s.Decides model (·.reasoningEfforts) b efforts → effort ∈ efforts

/-! ### Consistency -/

/-- The layers are applied to the base profile, the strongest last. -/
lemma resolve_eq_foldr : s.resolve model =
    (s.layers model).foldr (fun layer p => p.apply layer.1 layer.2)
      (.fromProvider model s.toolUse) := by
  unfold resolve resolveModelProfile layers
  cases catalogProvider s.catalog s.providerId s.protocol with
  | none => cases s.modelProfile model <;> rfl
  | some provider =>
    cases hentry : provider.models.lookup model <;> cases s.modelProfile model <;>
      simp [hentry]

/-- A field of the profile is what the layer says that decides it. -/
lemma resolve_field {field : ModelProfileOverride → Option α} {g : ModelProfile → Option α}
    (happly : ∀ p value source, g (p.apply value source) = (field value).or (g p))
    (hbase : g (.fromProvider model s.toolUse) = field s.toolUse.layer) (value : α) :
    g (s.resolve model) = some value ↔ ∃ layer, s.Decides model field layer value := by
  have hfind : g (s.resolve model) = (s.stack model).findSome? field := by
    rw [resolve_eq_foldr, stack]
    induction s.layers model with
    | nil =>
      rw [foldr_nil, hbase, map_nil, nil_append, List.findSome?_cons]
      cases field s.toolUse.layer <;> rfl
    | cons layer layers ih =>
      rw [foldr_cons, happly, ih, map_cons, cons_append, List.findSome?_cons]
      cases field layer.1 <;> rfl
  rw [hfind, List.findSome?_eq_some_iff]
  constructor
  · rintro ⟨stronger, layer, weaker, h⟩
    exact ⟨layer, stronger, weaker, h⟩
  · rintro ⟨layer, stronger, weaker, h⟩
    exact ⟨stronger, layer, weaker, h⟩

/-- The efforts of all maps are mapped. -/
lemma mem_resolve_effortMap (effort : ReasoningEffort) :
    effort ∈ (s.resolve model).reasoningEffortMap ↔
      ∃ layer ∈ s.stack model, effort ∈ layer.reasoningEffortMap := by
  rw [resolve_eq_foldr, stack]
  induction s.layers model with
  | nil => simp [ModelProfile.fromProvider, ToolUseConfig.layer]
  | cons layer layers ih =>
    rw [map_cons, cons_append, exists_mem_cons_iff, ← ih]
    exact AList.mem_union

/-- **Every layer fits together**: it was accepted, or it is the provider's flags. -/
lemma fits_of_mem {o : ModelProfileOverride} (h : o ∈ s.stack model) : Fits o := by
  have hconf : ∀ {o}, s.configured.lookup model = some o → Fits o := fun h =>
    Accepted.fits (s.configured_accepted _ (AList.mem_lookup_iff.1 h))
  have hmodel : ∀ {o}, s.modelProfile model = some o → Fits o := by
    intro o h
    unfold modelProfile at h
    split at h
    · exact hconf h
    · rename_i r hr
      split_ifs at h with hstat
      · exact hconf h
      · obtain rfl := Option.some.inj h
        -- the source is not validated
        obtain ⟨h1, h2, h3, h4⟩ :=
          Accepted.fits (s.overrides_accepted _ (AList.mem_lookup_iff.1 hr))
        exact ⟨h1, h2, h3, h4⟩
  simp only [stack, layers, map_append, List.map_map, mem_append, List.mem_map, mem_cons, map_cons,
    mem_toList, Function.comp_apply, exists_eq_right, not_mem_nil, or_false] at h
  rcases h with (h | rfl | ⟨layer, h, rfl⟩) | rfl
  · exact hmodel h
  · exact s.defaults_accepted.fits
  · cases hprov : catalogProvider s.catalog s.providerId s.protocol with
    | none => simp [hprov] at h
    | some provider =>
      obtain ⟨id, hentry⟩ := mem_of_catalogProvider hprov
      obtain ⟨hdefaults, hmod⟩ := s.catalog_accepted _ hentry
      simp only [hprov, elim_some, mem_append, List.mem_map, mem_toList, mem_singleton] at h
      rcases h with ⟨o, h, rfl⟩ | rfl
      · exact (hmod _ (AList.mem_lookup_iff.1 h)).fits
      · exact hdefaults.fits
  · exact s.toolUse.fits_layer

/-- A layer that fits together agrees with itself. -/
lemma agree_self {o : ModelProfileOverride} (h : Fits o) : s.Agree model o o where
  output_le output ho context hc := by
    obtain ⟨_, _, -, ho, -⟩ := ho
    obtain ⟨_, _, -, hc, -⟩ := hc
    exact h.output_le output ho context hc
  tools hchoice use huse := by
    obtain ⟨_, _, -, huse, -⟩ := huse
    refine h.tools (hchoice.imp ?_ ?_) use huse
    · exact fun ⟨_, _, _, h, _⟩ => h
    · exact fun ⟨_, _, _, h, _⟩ => h
  default_mem effort he efforts hes := by
    obtain ⟨_, _, -, he, -⟩ := he
    obtain ⟨_, _, -, hes, -⟩ := hes
    exact h.default_mem effort he efforts hes
  mapped_mem effort he efforts hes := by
    obtain ⟨_, _, -, hes, -⟩ := hes
    exact h.mapped_mem effort he efforts hes

/-- **A resolved profile is consistent** exactly when no two different layers disagree: each layer
agrees with itself, since it was accepted. -/
theorem resolved_consistent_iff : (s.resolve model).Consistent ↔
    ∀ a ∈ s.stack model, ∀ b ∈ s.stack model, a ≠ b → s.Agree model a b := by
  have houtp := s.resolve_field model (g := (·.maxOutputTokens)) (fun _ _ _ => rfl) rfl
  have hcont := s.resolve_field model (g := (·.contextWindow)) (fun _ _ _ => rfl) rfl
  have hdef := s.resolve_field model (g := (·.defaultReasoningEffort)) (fun _ _ _ => rfl) rfl
  -- the other fields have a value in every profile
  have huse := s.resolve_field model (g := (some ·.toolUse)) (fun _ _ _ => or_some.symm) rfl
  have hchoice := s.resolve_field model (g := (some ·.toolChoice)) (fun _ _ _ => or_some.symm) rfl
  have hparallel := s.resolve_field model (g := (some ·.parallelToolCalls))
    (fun _ _ _ => or_some.symm) rfl
  have heff := s.resolve_field model (g := (some ·.reasoningEfforts))
    (fun _ _ _ => or_some.symm) rfl
  simp only [Option.some.injEq] at huse hchoice hparallel heff
  constructor
  · intro h a ha b hb hab
    refine ⟨fun output ho context hc => ?_, fun hfeat use hb => ?_, fun effort he efforts hb => ?_,
      fun effort he efforts hb => ?_⟩
    · exact h.output_le output ((houtp _).2 ⟨a, ho⟩) context ((hcont _).2 ⟨b, hc⟩)
    · rw [← (huse use).2 ⟨b, hb⟩]
      exact h.tools (hfeat.imp (fun ha => (hchoice _).2 ⟨a, ha⟩) fun ha => (hparallel _).2 ⟨a, ha⟩)
    · rw [← (heff efforts).2 ⟨b, hb⟩]
      exact h.default_mem effort ((hdef _).2 ⟨a, he⟩)
    · rw [← (heff efforts).2 ⟨b, hb⟩]
      exact h.mapped_mem effort ((s.mem_resolve_effortMap model effort).2 ⟨a, ha, he⟩)
  · intro h
    have hagree : ∀ a ∈ s.stack model, ∀ b ∈ s.stack model, s.Agree model a b := by
      intro a ha b hb
      by_cases hab : a = b
      · subst hab
        exact s.agree_self model (s.fits_of_mem model ha)
      · exact h a ha b hb hab
    have hmem : ∀ {α : Type} {field : ModelProfileOverride → Option α} {o value},
        s.Decides model field o value → o ∈ s.stack model := by
      rintro α field o value ⟨stronger, weaker, hstack, -⟩
      rw [hstack]
      exact mem_append_right _ mem_cons_self
    obtain ⟨b, hb⟩ := (heff _).1 rfl
    refine ⟨fun output ho context hc => ?_, fun hfeat => ?_, fun effort he => ?_,
      fun effort he => ?_⟩
    · obtain ⟨a, ha⟩ := (houtp _).1 ho
      obtain ⟨b, hb⟩ := (hcont _).1 hc
      exact (hagree a (hmem ha) b (hmem hb)).output_le output ha context hb
    · obtain ⟨b, hb⟩ := (huse _).1 rfl
      rcases hfeat with hfeat | hfeat
      · obtain ⟨a, ha⟩ := (hchoice _).1 hfeat
        exact (hagree a (hmem ha) b (hmem hb)).tools (.inl ha) _ hb
      · obtain ⟨a, ha⟩ := (hparallel _).1 hfeat
        exact (hagree a (hmem ha) b (hmem hb)).tools (.inr ha) _ hb
    · obtain ⟨a, ha⟩ := (hdef _).1 he
      exact (hagree a (hmem ha) b (hmem hb)).default_mem effort ha _ hb
    · obtain ⟨a, ha, hmap⟩ := (s.mem_resolve_effortMap model effort).1 he
      exact (hagree a ha b (hmem hb)).mapped_mem effort hmap _ hb

end ProfileSources

/-- A provider whose models have a context of 4096 tokens, one of them with an override that lets
it put out 8000. -/
def longOutput : ProfileSources where
  catalog := ∅
  providerId := "local"
  protocol := .openaiCompat
  toolUse := ⟨true, true, true⟩
  defaults := { contextWindow := some 4096 }
  configured := ∅
  overrides := AList.singleton "m"
    { profile := { maxOutputTokens := some 8000 }, status := "active" }
  catalog_accepted := by simp
  defaults_accepted := by decide +kernel
  configured_accepted := by simp
  overrides_accepted := forall_mem_singleton.2 (by decide +kernel)

/-- The override passes its own validation, and the output exceeds the context. -/
theorem override_exceeds_context :
    (longOutput.resolve "m").maxOutputTokens = some 8000 ∧
      (longOutput.resolve "m").contextWindow = some 4096 ∧
      ¬(longOutput.resolve "m").Consistent := by
  have houtp : (longOutput.resolve "m").maxOutputTokens = some 8000 := rfl
  have hcont : (longOutput.resolve "m").contextWindow = some 4096 := rfl
  refine ⟨houtp, hcont, fun h => ?_⟩
  exact absurd (h.output_le 8000 houtp 4096 hcont) (by decide)

/-! ### Composition -/

lemma kunion_assoc [DecidableEq α] {β : α → Type} (l1 l2 l3 : List (Sigma β)) :
    (l1.kunion l2).kunion l3 = l1.kunion (l2.kunion l3) := by
  induction l1 generalizing l2 l3 with
  | nil => rw [nil_kunion, nil_kunion]
  | cons entry l1 ih =>
    rw [kunion_cons, kunion_cons, kunion_cons, ih, kunion_kerase]

lemma EffortMap.union_assoc (m1 m2 m3 : EffortMap) : m1 ∪ m2 ∪ m3 = m1 ∪ (m2 ∪ m3) :=
  AList.ext (kunion_assoc m1.entries m2.entries m3.entries)

/-- **Overrides compose**: one after the other they give the profile that the merged override
gives, up to its source, and merging is associative, with the empty override as identity. -/
theorem overrides_compose :
    (∀ (p : ModelProfile) (a b : ModelProfileOverride) (first second merged source),
      { (p.apply a first).apply b second with source := source } =
        { p.apply (a.merge b) merged with source := source }) ∧
    (∀ a b c : ModelProfileOverride, (a.merge b).merge c = a.merge (b.merge c)) ∧
    ∀ a : ModelProfileOverride, ModelProfileOverride.merge {} a = a ∧ a.merge {} = a := by
  have hgetD : ∀ {α : Type} (o o' : Option α) (a : α), (o.or o').getD a = o.getD (o'.getD a) := by
    intro α o o' a
    cases o <;> rfl
  refine ⟨fun p a b first second merged source => ?_, fun a b c => ?_, fun a => ?_⟩
  · simp only [ModelProfile.apply, ModelProfileOverride.merge, hgetD, Option.or_assoc,
      EffortMap.union_assoc]
  · simp only [ModelProfileOverride.merge, Option.or_assoc, EffortMap.union_assoc]
  · simp [ModelProfileOverride.merge]

end ModelPort.Routing
