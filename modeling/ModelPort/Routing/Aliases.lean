import ModelPort.Gateway.Steps
import ModelPort.Routing.Resolver

/-!
# Aliases

What a name resolves to is found by a chain of names: an alias whose target is neither a provider
nor a provider and a model goes on with its target (`AppConfig.nextName`), and the last name of the
chain decides. The chain has at most nine names.

* `aliases_transparent_iff`: the targets for which an alias resolves as its target does.
* `alias_insertion_keeps_resolution_iff`: when a new alias leaves all names resolvable.
-/

namespace ModelPort.Routing.AppConfig

variable {config : AppConfig} {aliasName target name : String} {left j : ℕ}

/-- The configuration with an alias in place of any other of its name. -/
def withAlias (config : AppConfig) (aliasName target : String) : AppConfig :=
  { config with aliases := config.aliases.insert aliasName target }

/-- `validate_alias_target`: the new alias can be resolved. -/
def validateAliasTarget (config : AppConfig) (aliasName target : String) : Except AppError Unit :=
  if (trim aliasName).isEmpty || (trim target).isEmpty then
    .error (.invalidRequest "alias and target are required")
  else ((config.withAlias (trim aliasName) (trim target)).resolve (trim aliasName)).map fun _ => ()

/-! ### Chains of names -/

/-- The name that the resolution of a name goes on with. -/
def nextName (config : AppConfig) (name : String) : Option String :=
  if name.isEmpty || (config.parseProviderModel name).isSome then none
  else (config.aliases.lookup name).filter fun target =>
    (splitOnce ':' target).isNone && (config.providers.lookup target).isNone

/-- **One name of a chain**, in a configuration with other aliases that agree on the name. -/
lemma resolveInner_succ {config' : AppConfig}
    (hbut : config' = { config with aliases := config'.aliases } := by rfl)
    (h : config'.aliases.lookup name = config.aliases.lookup name := by rfl) :
    config'.resolveInner (left + 1) name =
      match config.nextName name with
      | some next => config'.resolveInner left next
      | none => config.resolveInner 1 name := by
  generalize config'.aliases = aliases at hbut h
  subst hbut
  rw [resolveInner.eq_2, resolveInner.eq_2 config, nextName]
  by_cases hempty : name.isEmpty
  · simp only [hempty]
    rfl
  simp only [hempty, h]
  rw [show parseProviderModel { config with aliases } name = config.parseProviderModel name
    from rfl]
  cases hparse : config.parseProviderModel name with
  | some selector => rfl
  | none =>
    cases htarg : config.aliases.lookup name with
    | none => rfl
    | some target =>
      cases hsplit : splitOnce ':' target with
      | some pieces =>
        simp [Option.filter, resolveAliasTarget, hsplit]
        rfl
      | none =>
        cases hprov : config.providers.lookup target with
        | some provider => simp [Option.filter, resolveAliasTarget, hsplit, hprov]
        | none => simp [Option.filter, resolveAliasTarget, hsplit, hprov]

lemma resolveInner_next {next : String} (hnext : config.nextName name = some next) :
    config.resolveInner (left + 1) name = config.resolveInner left next := by
  rw [resolveInner_succ, hnext]

lemma resolveInner_last (hlast : config.nextName name = none) :
    config.resolveInner (left + 1) name = config.resolveInner 1 name := by
  rw [resolveInner_succ, hlast]

/-- The chain of a name comes to another after some names. -/
inductive Reaches (config : AppConfig) (aliasName : String) : ℕ → String → Prop
  | here : Reaches config aliasName 0 aliasName
  | next {j : ℕ} {name next : String} (hne : name ≠ aliasName)
      (hnext : config.nextName name = some next) (h : Reaches config aliasName j next) :
      Reaches config aliasName (j + 1) name

/-- A name that resolves comes to another within its chain. -/
lemma Reaches.lt (h : config.Reaches aliasName j name)
    (hok : (config.resolveInner left name).isOk) : j < left := by
  induction h generalizing left with
  | here =>
    cases left with
    | zero => cases hok
    | succ left => exact Nat.succ_pos left
  | next hne hnext h ih =>
    cases left with
    | zero => cases hok
    | succ left =>
      rw [resolveInner_next hnext] at hok
      exact Nat.succ_lt_succ (ih hok)

/-- A name resolves as the name it comes to, with as many names less. -/
lemma Reaches.resolveInner (h : config.Reaches aliasName j name) :
    config.resolveInner (left + j) name = config.resolveInner left aliasName := by
  induction h with
  | here => rfl
  | next hne hnext h ih =>
    rw [← Nat.add_assoc, resolveInner_next hnext]
    exact ih

/-- The last name of a chain decides. -/
lemma Reaches.resolveInner_last {last : String} (h : config.Reaches last j name)
    (hlast : config.nextName last = none) (hj : j < left) :
    config.resolveInner left name = config.resolveInner 1 last := by
  rw [show left = left - j - 1 + 1 + j by omega, h.resolveInner, AppConfig.resolveInner_last hlast]

/-- Up to the new alias the chain is the same. -/
lemma Reaches.withAlias (h : config.Reaches aliasName j name) :
    (config.withAlias aliasName target).Reaches aliasName j name := by
  induction h with
  | here => exact .here
  | next hne hnext h ih =>
    refine .next hne ?_ ih
    rw [← hnext, nextName, nextName]
    rw [AppConfig.withAlias, AList.lookup_insert_ne hne]
    rfl

/-- The chain of a name that resolves has a last name. -/
lemma exists_last (hok : (config.resolveInner left name).isOk) :
    ∃ last k, config.nextName last = none ∧ config.Reaches last k name := by
  induction left generalizing name with
  | zero => cases hok
  | succ left ih =>
    cases hnext : config.nextName name with
    | none => exact ⟨name, 0, hnext, .here⟩
    | some next =>
      rw [resolveInner_next hnext] at hok
      obtain ⟨last, k, hlast, hreach⟩ := ih hok
      refine ⟨last, k + 1, hlast, .next ?_ hnext hreach⟩
      rintro rfl
      cases hnext.symm.trans hlast

/-- A name whose chain comes back to it does not resolve. -/
lemma not_isOk_of_cycle (hnext : config.nextName aliasName = some name)
    (h : config.Reaches aliasName j name) :
    ¬ (config.resolveInner left aliasName).isOk := by
  induction left using Nat.strong_induction_on with
  | _ left ih =>
    intro hok
    cases left with
    | zero => cases hok
    | succ left =>
      rw [resolveInner_next hnext] at hok
      have hj : j < left := h.lt hok
      rw [← Nat.sub_add_cancel hj.le, h.resolveInner] at hok
      exact ih (left - j) (by omega) hok

/-- A chain that does not come to the new alias is the same. -/
lemma resolveInner_of_not_reaches (h : ∀ j, ¬ config.Reaches aliasName j name) :
    (config.withAlias aliasName target).resolveInner left name = config.resolveInner left name := by
  induction left generalizing name with
  | zero => rfl
  | succ left ih =>
    have hne : name ≠ aliasName := by
      rintro rfl
      exact h 0 .here
    rw [resolveInner_succ rfl (AList.lookup_insert_ne hne)]
    conv_rhs => rw [resolveInner_succ]
    cases hnext : config.nextName name with
    | none => rfl
    | some next => exact ih fun j hj => h (j + 1) (.next hne hnext hj)

/-- When the new alias goes on, and with what. -/
lemma nextName_withAlias : (config.withAlias aliasName target).nextName aliasName = some name ↔
    aliasName.isEmpty = false ∧ config.parseProviderModel aliasName = none ∧
      splitOnce ':' target = none ∧ config.providers.lookup target = none ∧ target = name := by
  have hparse : (config.withAlias aliasName target).parseProviderModel aliasName =
      config.parseProviderModel aliasName := rfl
  rw [nextName, hparse, withAlias, AList.lookup_insert]
  cases aliasName.isEmpty <;> cases config.parseProviderModel aliasName <;>
    simp [Option.filter_eq_some_iff]
  grind

/-- A new alias that resolves and goes on resolves as its target did. -/
lemma resolveInner_withAlias {n : ℕ}
    (hok : ((config.withAlias aliasName target).resolveInner n aliasName).isOk)
    (hnext : (config.withAlias aliasName target).nextName aliasName = some name) (left : ℕ) :
    (config.withAlias aliasName target).resolveInner (left + 1) aliasName =
      config.resolveInner left target := by
  obtain ⟨-, -, -, -, rfl⟩ := nextName_withAlias.1 hnext
  rw [resolveInner_next hnext]
  exact resolveInner_of_not_reaches fun j h => not_isOk_of_cycle hnext h.withAlias hok

lemma resolveInner_of_accepted (h : config.validateAliasTarget aliasName target = .ok ()) :
    (trim aliasName).isEmpty = false ∧
      ((config.withAlias (trim aliasName) (trim target)).resolveInner 9 (trim aliasName)).isOk
        = true := by
  unfold validateAliasTarget resolve at h
  split_ifs at h with hempty
  rw [trim_trim] at h
  refine ⟨by simp_all, ?_⟩
  revert h
  cases (config.withAlias (trim aliasName) (trim target)).resolveInner 9 (trim aliasName) with
  | ok a => exact fun _ => rfl
  | error e => exact nofun

/-- **An accepted alias leaves all names resolvable** iff, where it goes on with its target, the
names that came before it in the chain of a name that resolved, the alias and the chain of the
target are nine names at most. -/
theorem alias_insertion_keeps_resolution_iff (config : AppConfig) (aliasName target : String)
    (haccepted : config.validateAliasTarget aliasName target = .ok ()) :
    let config' := config.withAlias (trim aliasName) (trim target)
    (∀ name, (config.resolve name).isOk → (config'.resolve name).isOk) ↔
      (config.parseProviderModel (trim aliasName) = none → splitOnce ':' (trim target) = none →
        config.providers.lookup (trim target) = none →
        ∀ name before last after, (config.resolve name).isOk →
          config.Reaches (trim aliasName) (before + 1) (trim name) →
          config.nextName last = none → config.Reaches last after (trim target) →
          (before + 1) + 1 + (after + 1) ≤ 9) := by
  obtain ⟨hempty, haccepted⟩ := resolveInner_of_accepted haccepted
  constructor
  · intro h hplain hcolon hprov name j last k hok hreach _ hlast
    have hnext := nextName_withAlias.2 ⟨hempty, hplain, hcolon, hprov, rfl⟩
    have hj : j + 1 < 9 := hreach.lt hok
    have hkept := h name hok
    rw [resolve, show 9 = 7 - j + 1 + (j + 1) by omega, hreach.withAlias.resolveInner,
      resolveInner_withAlias haccepted hnext] at hkept
    have hk : k < 7 - j := hlast.lt hkept
    omega
  · intro h name hok
    by_cases hreach : ∃ j, config.Reaches (trim aliasName) j (trim name)
    · obtain ⟨j, hj⟩ := hreach
      have hlt : j < 9 := hj.lt hok
      rw [resolve, show 9 = 8 - j + 1 + j by omega, hj.withAlias.resolveInner]
      cases hnext : (config.withAlias (trim aliasName) (trim target)).nextName (trim aliasName) with
      | none =>
        rw [resolveInner_last hnext] at haccepted ⊢
        exact haccepted
      | some next =>
        have hsame := resolveInner_withAlias haccepted hnext
        cases j with
        | zero => exact haccepted
        | succ j =>
          rw [hsame] at haccepted ⊢
          obtain ⟨last, k, hlast, hk⟩ := exists_last haccepted
          obtain ⟨-, hplain, hcolon, hprov, -⟩ := nextName_withAlias.1 hnext
          have hroom := h hplain hcolon hprov name j last k hok hj hlast hk
          rw [hk.resolveInner_last hlast (hk.lt haccepted)] at haccepted
          rwa [hk.resolveInner_last hlast (by omega)]
    · rw [resolve, resolveInner_of_not_reaches (not_exists.1 hreach)]
      exact hok

/-! ### Aliases and their targets -/

/-- The error of a chain with too many names. -/
def tooDeep : AppError := .invalidRequest "model alias chain is too deep or cyclic"

/-- A chain that is not too long has room for one more name. -/
lemma resolveInner_add_one (h : config.resolveInner left name ≠ .error tooDeep) :
    config.resolveInner (left + 1) name = config.resolveInner left name := by
  induction left generalizing name with
  | zero => exact absurd rfl h
  | succ left ih =>
    rw [resolveInner_succ] at h
    rw [resolveInner_succ]
    conv_rhs => rw [resolveInner_succ]
    cases hnext : config.nextName name with
    | none => rfl
    | some next =>
      rw [hnext] at h
      exact ih h

/-- A name that resolution looks up among the aliases, and its target, which is no provider. -/
structure IsAlias (config : AppConfig) (aliasName target : String) : Prop where
  trimmed : trim aliasName = aliasName
  ne_empty : aliasName.isEmpty = false
  not_selector : config.parseProviderModel aliasName = none
  lookup : config.aliases.lookup aliasName = some target
  not_provider : config.providers.lookup target = none

lemma IsAlias.resolve (h : config.IsAlias aliasName target) :
    config.resolve aliasName =
      config.resolveAliasTarget (config.resolveInner 8) aliasName target := by
  rw [AppConfig.resolve, h.trimmed, resolveInner.eq_2]
  simp [h.ne_empty, h.not_selector, h.lookup]

/-- A target that an alias hands on as it would be read itself: a name without blanks around it,
or a configured provider and a model without blanks around it. -/
def Clean (configured : Bool) (target : String) : Prop :=
  match splitOnce ':' target with
  | none => trim target = target
  | some (providerId, model) =>
    configured ∧ trimStart providerId = providerId ∧ (trim model = "" ∨ trim model = model)

def plainProvider : ProviderConfig :=
  { Gateway.Sample.provider "" with defaultModel := "", passthroughUnknownModels := true }

/-- A configuration with these providers, the first of them the default, and these aliases. -/
def sample (providerIds : List String) (links : List (String × String)) : AppConfig where
  defaultProvider := providerIds.headD ""
  providerOrder := []
  providers := providerIds.foldr (fun id => AList.insert id plainProvider) ∅
  aliases := links.foldr (fun link => AList.insert link.1 link.2) ∅

section

variable {ids : List String} {id : String}

lemma sample_lookup {links : List (String × String)} : (sample ids links).providers.lookup id =
    if id ∈ ids then some plainProvider else none := by
  induction ids with
  | nil => rfl
  | cons first ids ih =>
    change (AList.insert first plainProvider (sample ids links).providers).lookup id = _
    by_cases hid : id = first
    · rw [hid, AList.lookup_insert, if_pos List.mem_cons_self]
    · rw [AList.lookup_insert_ne hid, ih]
      simp [hid]

lemma sample_alias : (sample ids [(aliasName, target)]).aliases.lookup name =
    if name = aliasName then some target else none := by
  change (AList.insert aliasName target (∅ : StringMap String)).lookup name = _
  by_cases hname : name = aliasName
  · rw [hname, AList.lookup_insert, if_pos rfl]
  · rw [AList.lookup_insert_ne hname, if_neg hname]
    rfl

/-- The default provider is asked for a name that is no alias and names no provider. -/
lemma sample_resolveInner (halias : name ≠ aliasName)
    (hparse : (sample (id :: ids) [(aliasName, target)]).parseProviderModel name = none) :
    (sample (id :: ids) [(aliasName, target)]).resolveInner (left + 1) name =
      .ok ⟨id, plainProvider, name⟩ := by
  have hdef : (sample (id :: ids) [(aliasName, target)]).providers.lookup id =
      some plainProvider := by
    rw [sample_lookup, if_pos List.mem_cons_self]
  rw [resolveInner.eq_2, hparse, sample_alias]
  split
  · rename_i hempty
    change resolveForProvider _ id none = _
    rw [resolveForProvider, hdef, String.isEmpty_iff.1 hempty]
    rfl
  · rw [resolveByDefault]
    rw [show (sample (id :: ids) _).defaultProvider = id from rfl, hdef]
    rfl

end

/-- An alias with a clean target resolves as the target. -/
lemma IsAlias.resolve_eq {configured : Bool} (h : config.IsAlias aliasName target)
    (hconf : ∀ providerId model, splitOnce ':' target = some (providerId, model) →
      (config.providers.lookup providerId).isSome = configured)
    (hdeep : config.resolve aliasName ≠ .error tooDeep) (hclean : Clean configured target) :
    (config.resolve aliasName).toOption = (config.resolve target).toOption := by
  rw [h.resolve, resolveAliasTarget] at hdeep ⊢
  by_cases hcolon : ':' ∈ target.toList
  · obtain ⟨p, m, m', hsplit, hsplit', hm', -, -⟩ := splitOnce_trim (by decide) hcolon
    simp only [Clean, hsplit] at hclean ⊢
    obtain ⟨rfl, hstart, hmodel⟩ := hclean
    obtain ⟨provider, hprov⟩ := Option.isSome_iff_exists.1 (hconf p m hsplit)
    have hparse : config.parseProviderModel (trim target) = some (p, trim m) := by
      rw [parseProviderModel, hsplit', hstart]
      simp [hprov, hm']
    rw [resolve_selector hparse hprov]
    simp only [hprov, Option.isSome_some, if_true, resolveForProvider_some hprov]
    rcases hmodel with hmodel | hmodel
    · simp [selectedModel, hmodel, show trim "" = "" from rfl]
    · rw [hmodel]
  · have hsplit := splitOnce_of_notMem hcolon
    simp only [Clean, hsplit, h.not_provider] at hclean hdeep ⊢
    rw [AppConfig.resolve, hclean, resolveInner_add_one hdeep]

/-- A name to be the alias of a target. -/
structure Fresh (a target : String) : Prop where
  trimmed : trim a = a
  ne_empty : a.isEmpty = false
  plain : ':' ∉ a.toList
  ne : trim target ≠ a

lemma exists_fresh (target : String) : ∃ a, Fresh a target := by
  by_cases ha : trim target = "a"
  · exact ⟨"b", by decide, rfl, by decide, by simp [ha]⟩
  · exact ⟨"a", by decide, rfl, by decide, ha⟩

lemma parseProviderModel_of_notMem (h : ':' ∉ name.toList) :
    config.parseProviderModel name = none := by
  rw [parseProviderModel, splitOnce_of_notMem h]

namespace Fresh

variable {a : String} {ids : List String} (hfresh : Fresh a target)
include hfresh

-- the default provider's id has a colon, so that no target names it
lemma isAlias (hids : target ∉ ids) :
    IsAlias (sample ((target ++ ":") :: ids) [(a, target)]) a target := by
  refine ⟨hfresh.trimmed, hfresh.ne_empty, parseProviderModel_of_notMem hfresh.plain,
    by rw [sample_alias, if_pos rfl], ?_⟩
  have hdef : target ≠ target ++ ":" := fun h => by simpa using congrArg String.length h
  rw [sample_lookup, if_neg (by simp [hids, hdef])]

/-- A target without a colon is trimmed if the alias of a sample resolves as it. -/
lemma trim_eq (hcolon : ':' ∉ target.toList)
    (h : let config := sample [target ++ ":"] [(a, target)]
      config.resolve a ≠ .error tooDeep →
        (config.resolve a).toOption = (config.resolve target).toOption) : trim target = target := by
  by_contra hne
  have halias := hfresh.isAlias List.not_mem_nil
  simp only [halias.resolve, resolveAliasTarget, splitOnce_of_notMem hcolon,
    halias.not_provider] at h
  rw [sample_resolveInner (fun heq => hne (by rw [heq, hfresh.trimmed]))
    (parseProviderModel_of_notMem hcolon)] at h
  have hsame := h (by simp)
  rw [AppConfig.resolve, sample_resolveInner hfresh.ne
    (parseProviderModel_of_notMem fun hmem => hcolon (mem_of_mem_trim hmem))] at hsame
  exact hne (congrArg ResolvedProvider.model (Option.some.inj hsame)).symm

/-- A target with a colon is clean if the alias of a sample, with the provider before the colon or
without it, resolves as the target. -/
lemma clean {configured : Bool} (hcolon : ':' ∈ target.toList)
    (h : ∀ ids, target ∉ ids → let config := sample ((target ++ ":") :: ids) [(a, target)]
      (∀ providerId model, splitOnce ':' target = some (providerId, model) →
        (config.providers.lookup providerId).isSome = configured) →
      config.resolve a ≠ .error tooDeep →
      (config.resolve a).toOption = (config.resolve target).toOption) :
    Clean configured target := by
  obtain ⟨p, m, m', hsplit, hsplit', hm', hp, hp'⟩ := splitOnce_trim (by decide) hcolon
  have hother : ∀ id : String, ':' ∉ id.toList → id ≠ target ++ ":" := by
    rintro id hid rfl
    exact hid (by simp)
  have htarg : target ∉ if configured then [p] else [] := fun hmem => by
    cases configured with
    | false => cases hmem
    | true => exact hp (List.mem_singleton.1 hmem ▸ hcolon)
  have hids : ∀ id, id ∈ (if configured then [p] else []) ↔ configured = true ∧ id = p := by
    cases configured <;> simp
  generalize (if configured then [p] else []) = ids at hids htarg
  have hlook : ∀ id, ':' ∉ id.toList → (sample ((target ++ ":") :: ids)
      [(a, target)]).providers.lookup id = if configured ∧ id = p then some plainProvider
      else none := fun id hid => by
    rw [sample_lookup]
    simp [hids, hother id hid]
  have hparse : (sample ((target ++ ":") :: ids) [(a, target)]).parseProviderModel
      (trim target) = if configured ∧ trimStart p = p then some (p, trim m) else none := by
    rw [parseProviderModel, hsplit']
    grind
  have hdirect := @sample_resolveInner a target (trim target) 8 ids (target ++ ":") hfresh.ne
  have hres := h ids htarg
  simp only [(hfresh.isAlias htarg).resolve, resolveAliasTarget, hsplit, hlook _ hp] at hres
  simp only [Clean, hsplit]
  cases configured with
  | false =>
    rw [AppConfig.resolve, hdirect hparse] at hres
    have hdiffer := hres (by rintro _ _ ⟨⟩; simp [hlook _ hp]) (by simp [tooDeep])
    cases hdiffer
  | true =>
    have hprov := (hlook p hp).trans (if_pos ⟨rfl, rfl⟩)
    simp only [true_and, resolveForProvider_some hprov] at hparse hres
    have hsame := hres (by rintro _ _ ⟨⟩; simp [hprov]) (by simp)
    by_cases hstart : trimStart p = p
    · rw [if_pos hstart] at hparse
      rw [resolve_selector hparse hprov] at hsame
      have hmodel := congrArg ResolvedProvider.model (Option.some.inj hsame)
      refine ⟨rfl, hstart, or_iff_not_imp_left.2 fun hblank => ?_⟩
      simpa [selectedModel, trim_trim, hblank] using hmodel.symm
    · rw [if_neg hstart] at hparse
      rw [AppConfig.resolve, hdirect hparse] at hsame
      cases hother p hp (congrArg ResolvedProvider.providerId (Option.some.inj hsame))

end Fresh

/-- **An alias resolves as its target does**, in every configuration that has or has not the
provider before the target's colon, iff the target is clean. -/
theorem aliases_transparent_iff (target : String) (configured : Bool) :
    (∀ config aliasName, IsAlias config aliasName target →
        (∀ providerId model, splitOnce ':' target = some (providerId, model) →
          (config.providers.lookup providerId).isSome = configured) →
        config.resolve aliasName ≠ .error tooDeep →
        (config.resolve aliasName).toOption = (config.resolve target).toOption) ↔
      Clean configured target := by
  constructor
  · intro h
    obtain ⟨a, hfresh⟩ := exists_fresh target
    by_cases hcolon : ':' ∈ target.toList
    · exact hfresh.clean hcolon fun ids hids => h _ a (hfresh.isAlias hids)
    · have hsplit := splitOnce_of_notMem hcolon
      simp only [Clean, hsplit]
      exact hfresh.trim_eq hcolon (h _ a (hfresh.isAlias List.not_mem_nil) (by simp [hsplit]))
  · intro hclean config aliasName halias hconf hdeep
    exact halias.resolve_eq hconf hdeep hclean

/-- **An alias that fails where its target resolves**: what is before the colon of a tagged model
is taken for a provider. -/
theorem tagged_target_fails :
    let config := sample ["p"] [("fast", "qwen3:8b")]
    (config.resolve "fast").isOk = false ∧ (config.resolve "qwen3:8b").isOk := by
  decide +kernel

/-! ### A chain that becomes too long -/

/-- A chain of a sample follows its links. -/
lemma sample_nextName {ids : List String} {links : List (String × String)} {next : String}
    (h : (sample ids links).nextName name = some next) : (name, next) ∈ links := by
  rw [nextName] at h
  split_ifs at h with hplain
  clear hplain
  replace h := (Option.filter_eq_some_iff.1 h).1
  induction links with
  | nil => cases h
  | cons link links ih =>
    change (AList.insert link.1 link.2 (sample ids links).aliases).lookup name = _ at h
    by_cases hname : name = link.1
    · rw [hname, AList.lookup_insert, Option.some.injEq] at h
      simp [hname, ← h]
    · rw [AList.lookup_insert_ne hname] at h
      exact List.mem_cons_of_mem _ (ih h)

/-- With a name in front of the new alias and two behind it there is room enough. -/
theorem alias_between_keeps_resolution :
    (((sample ["p"] [("a", "b"), ("c", "d")]).withAlias "b" "c").resolve "a").isOk := by
  refine (alias_insertion_keeps_resolution_iff (sample ["p"] [("a", "b"), ("c", "d")]) "b" "c"
    (by decide +kernel)).2 (fun _ _ _ name before last after _ hbef _ hafter => ?_) "a"
    (by decide +kernel)
  have hshort : after < 2 := hafter.lt (by decide +kernel)
  cases hbef with
  | next hne hnext h =>
    have hlink := sample_nextName hnext
    cases h with
    | here => omega
    | next hne' hnext' h' =>
      have hlink' := sample_nextName hnext'
      simp only [List.mem_pair, Prod.mk.injEq] at hlink hlink'
      rcases hlink with ⟨-, rfl⟩ | ⟨-, rfl⟩ <;> simp at hlink'

/-- **An accepted alias that breaks another**: the chain of `a1` has nine names, and the new alias
is its last. -/
theorem alias_lengthens_chain :
    let config := sample ["p"] [("a1", "a2"), ("a2", "a3"), ("a3", "a4"), ("a4", "a5"),
      ("a5", "a6"), ("a6", "a7"), ("a7", "a8"), ("a8", "m")]
    config.validateAliasTarget "m" "n" = .ok () ∧ (config.resolve "a1").isOk ∧
      ((config.withAlias "m" "n").resolve "a1").isOk = false := by
  decide +kernel

end ModelPort.Routing.AppConfig
