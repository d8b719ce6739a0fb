import ModelPort.Auth.Store
import ModelPort.Lib.Runs

/-!
# Runs of the user store

A run is any sequence of critical sections of any number of operations. `System.pending` holds the
logins that stand between their two sections; each of them may be taken up at any later moment,
or never.
-/

namespace ModelPort.Auth

open Relational Except WriteThrough

/-- A login between its two critical sections. -/
inductive Pending where
  | password (login : PendingLogin)
  | federated (login : PendingProvision)

/-- The store and the logins that are under way. -/
structure System where
  store : AuthStore
  pending : List Pending

/-- The system with one user, before anybody has signed in. -/
def System.installed (user : AdminUserRecord) : System where
  store := ⟨⟨Table.ofRows [user], Table.empty, Table.empty⟩, 1, ⟨[user]⟩, 1⟩
  pending := []

/-- A critical section, with what it gets from outside. -/
inductive Event where
  | loginBegin (username password : String) (now : ℕ)
  | loginFinish (i : ℕ) (token : String) (write : Write)
  | federatedBegin (input : FederatedLoginInput) (now : ℕ) (token : String) (write : Write)
  | federatedFinish (i : ℕ) (uuid : String) (hash : Except AppError String) (token : String)
      (write : Write)
  | createUser (input : CreateUserInput) (uuid : String) (hash : Except AppError String) (now : ℕ)
      (write : Write)
  | updateUser (userId currentUserId : String) (input : UpdateUserInput)
      (hash : Except AppError String) (now : ℕ) (write : Write)
  | deleteUser (userId currentUserId : String) (write : Write)
  | requireSession (token : String) (now : ℕ)
  | logout (token : String)

/-- What the caller hears when an event ends its operation. -/
inductive Reply where
  | none
  | login (result : Except AppError LoginResult)
  | user (result : Except AppError PublicUser)
  | done (result : Except AppError Unit)

namespace System

section

variable (env : AuthEnv)

/-- A critical section that ends its operation. -/
def finish {α : Type} (sys : System) (write : Write) (reply : Except AppError α → Reply)
    (outcome : Outcome α) : System × Reply :=
  let (store, result) := commit write sys.store outcome
  ({ sys with store := store }, reply result)

variable (sys : System)

/-- The system with another state in memory. -/
def withMemory (inner : AuthInner) : System :=
  { sys with store := { sys.store with memory := inner } }

/-- The first section of a login. -/
def beginLogin (username password : String) (now : ℕ) : System × Reply :=
  match loginInput username password with
  | .error e => (sys, .login (.error e))
  | .ok username =>
    match loginBegin sys.store.memory username password now with
    | (inner, .error e) => (sys.withMemory inner, .login (.error e))
    | (inner, .ok login) =>
      ({ sys.withMemory inner with pending := sys.pending ++ [.password login] }, .none)

/-- The first section of a federated login. -/
def beginFederated (input : FederatedLoginInput) (now : ℕ) (token : String)
    (write : Write) : System × Reply :=
  match federatedIdentity input with
  | .error e => (sys, .login (.error e))
  | .ok identity =>
    match federatedBegin env sys.store.memory input identity now token with
    | .finished outcome => sys.finish write .login outcome
    | .provision inner login =>
      ({ sys.withMemory inner with pending := sys.pending ++ [.federated login] }, .none)

/-- The second section of a federated login: the password was hashed, or hashing it failed. -/
def finishFederated (login : PendingProvision) (uuid : String)
    (hash : Except AppError String) (token : String) (write : Write) : System × Reply :=
  match hash with
  | .error e => (sys, .login (.error e))
  | .ok passwordHash =>
    sys.finish write .login
      (Auth.federatedFinish env sys.store.memory login uuid passwordHash token)

/-- The login with this number is taken up. -/
def take (i : ℕ) : System := { sys with pending := sys.pending.eraseIdx i }

/-- One event. -/
def perform : Event → System × Reply
  | .loginBegin username password now => sys.beginLogin username password now
  | .loginFinish i token write =>
    match sys.pending[i]? with
    | some (.password login) =>
      (sys.take i).finish write .login (Auth.loginFinish env sys.store.memory login token)
    | _ => (sys, .none)
  | .federatedBegin input now token write => sys.beginFederated env input now token write
  | .federatedFinish i uuid hash token write =>
    match sys.pending[i]? with
    | some (.federated login) => (sys.take i).finishFederated env login uuid hash token write
    | _ => (sys, .none)
  | .createUser input uuid hash now write =>
    sys.finish write .user (Auth.createUser sys.store.memory input uuid hash now)
  | .updateUser userId currentUserId input hash now write =>
    sys.finish write .user
      (Auth.updateUser sys.store.memory userId currentUserId input hash now)
  | .deleteUser userId currentUserId write =>
    sys.finish write .done (Auth.deleteUser sys.store.memory userId currentUserId)
  | .requireSession token now =>
    let (inner, result) := Auth.requireSession env sys.store.memory token now
    (sys.withMemory inner, .user result)
  | .logout token => (sys.withMemory (Auth.logout env sys.store.memory token), .none)

/-- The system after one event. -/
def next (e : Event) : System := (sys.perform env e).1

/-- The system after these events. -/
abbrev after (start : System) (events : List Event) : System :=
  Runs.after (next env) start events

lemma after_append (start : System) (events : List Event) (e : Event) :
    start.after env (events ++ [e]) = ((start.after env events).perform env e).1 :=
  Runs.after_concat

end

end System

end ModelPort.Auth
