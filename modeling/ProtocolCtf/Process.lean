import ProtocolCtf.Basic

/- Go code that calls the operating system, as a computation that passes the process state along.
   The system is known by its answers (`Os`), one field per kind of call; the process state
   (`Proc`) is the working directory, the client command `Start` built together with whether its
   process started (`g.cmd` and `g.cmd.Process` of the harness), and the calls made so far, oldest
   first. A failure ends a run but keeps the calls it made, so what a run tore down can be read
   off every run. The properties of a computation over every run are stated once here, each with
   the rules that carry it through `bind` and `defer`: `KeepsChild` (the client's process is left
   as found), `NoPanic`, `FailsWith` (which errors it can return) and `Keeps` (a state invariant
   holds at the end of every run that starts in it). -/

set_option autoImplicit false

namespace ProtocolCtf.Harness

structure Command where
  dir : String
  path : String
  args : List String
  verbose : Bool
deriving DecidableEq, Repr

structure Attempt where
  dial : Option GoError
  blockNumber : Except GoError Nat

-- `poll` holds the passes of `Running`'s loop before its context's deadline; `dial` and
-- `blockNumber` answer `checkFlag`'s own calls after it.
structure Os where
  getwd : Except GoError String
  chdir : String → Option GoError
  removeAll : String → Option GoError
  mkdir : String → Option GoError
  run : Command → Option GoError
  start : Command → Option GoError
  poll : List Attempt
  dial : Option GoError
  blockNumber : Except GoError Nat

inductive Os.Answered (os : Os) : GoError → Prop where
  | getwd {e : GoError} : os.getwd = .error e → os.Answered e
  | removeAll {path : String} {e : GoError} : os.removeAll path = some e → os.Answered e
  | mkdir {path : String} {e : GoError} : os.mkdir path = some e → os.Answered e
  | run {cmd : Command} {e : GoError} : os.run cmd = some e → os.Answered e
  | start {cmd : Command} {e : GoError} : os.start cmd = some e → os.Answered e
  | dial {e : GoError} : os.dial = some e → os.Answered e
  | blockNumber {e : GoError} : os.blockNumber = .error e → os.Answered e

inductive Call where
  | getwd
  | chdir (dir : String)
  | removeAll (path : String)
  | mkdir (path : String)
  | run (cmd : Command)
  | start (cmd : Command)
  | kill
  | wait
  | poll
  | dial (addr : String)
  | blockNumber
deriving DecidableEq, Repr

structure Proc where
  cwd : String
  child : Option (Command × Bool)
  calls : List Call

def Proc.log (p : Proc) (c : Call) : Proc := { p with calls := p.calls ++ [c] }

def Proc.initial (cwd : String) : Proc := ⟨cwd, none, []⟩

@[simp] theorem Proc.log_calls (p : Proc) (c : Call) : (p.log c).calls = p.calls ++ [c] := rfl
@[simp] theorem Proc.log_child (p : Proc) (c : Call) : (p.log c).child = p.child := rfl
@[simp] theorem Proc.log_cwd (p : Proc) (c : Call) : (p.log c).cwd = p.cwd := rfl

abbrev Run (α : Type) : Type := Os → Proc → Except Failure α × Proc

namespace Run

def bind {α β : Type} (x : Run α) (f : α → Run β) : Run β := fun os p =>
  match x os p with
  | (.ok a, p) => f a os p
  | (.error failure, p) => (.error failure, p)

instance : Monad Run where
  pure a := fun _ p => (.ok a, p)
  bind := bind

@[simp] theorem pure_apply {α : Type} (a : α) (os : Os) (p : Proc) :
    (pure a : Run α) os p = (.ok a, p) := rfl

@[simp] theorem bind_apply {α β : Type} (x : Run α) (f : α → Run β) (os : Os) (p : Proc) :
    (x >>= f) os p = match x os p with
      | (.ok a, p) => f a os p
      | (.error failure, p) => (.error failure, p) := rfl

theorem bind_of_ok {α β : Type} {x : Run α} (f : α → Run β) {os : Os} {p q : Proc} {a : α}
    (ran : x os p = (.ok a, q)) : (x >>= f) os p = f a os q := by
  simp [ran]

theorem bind_of_error {α β : Type} {x : Run α} (f : α → Run β) {os : Os} {p q : Proc}
    {failure : Failure} (ran : x os p = (.error failure, q)) : (x >>= f) os p = (.error failure, q) := by
  simp [ran]

end Run

def fail {α : Type} (e : GoError) : Run α := fun _ p => (.error (.error e), p)

def check : Option GoError → Run Unit
  | none => pure ()
  | some e => fail e

def ofExcept {α : Type} : Except GoError α → Run α
  | .ok a => pure a
  | .error e => fail e

-- `defer cleanup` with the cleanup's result dropped: it runs on every way out of `body`, whose
-- result stands unless the cleanup panics.
def deferring {α : Type} (cleanup : Run Unit) (body : Run α) : Run α := fun os p =>
  let ran := body os p
  let cleaned := cleanup os ran.2
  (match cleaned.1 with
    | .error (.panic msg) => .error (.panic msg)
    | _ => ran.1, cleaned.2)

theorem deferring_state {α : Type} (cleanup : Run Unit) (body : Run α) (os : Os) (p : Proc) :
    (deferring cleanup body os p).2 = (cleanup os (body os p).2).2 := rfl

theorem deferring_of_cleanup_ok {α : Type} (cleanup : Run Unit) (body : Run α) {os : Os} {p q : Proc}
    (cleaned : cleanup os (body os p).2 = (.ok (), q)) : deferring cleanup body os p = ((body os p).1, q) := by
  simp [deferring, cleaned]

def nilOr : Option GoError → Except GoError Unit
  | none => .ok ()
  | some e => .error e

@[simp] theorem nilOr_eq_error {err : Option GoError} {e : GoError} : nilOr err = .error e ↔ err = some e := by
  cases err <;> simp [nilOr]

def osCall {α : Type} (call : Proc → Call) (answer : Os → Proc → Except GoError α) : Run α := fun os p =>
  ((answer os p).mapError .error, p.log (call p))

@[simp] theorem osCall_apply {α : Type} (call : Proc → Call) (answer : Os → Proc → Except GoError α)
    (os : Os) (p : Proc) : osCall call answer os p = ((answer os p).mapError .error, p.log (call p)) := rfl

def getwd : Run String := osCall (fun _ => .getwd) fun os _ => os.getwd

def removeAll (path : String) : Run (Option GoError) :=
  osCall (fun _ => .removeAll path) fun os _ => .ok (os.removeAll path)

def mkdir (path : String) : Run (Option GoError) :=
  osCall (fun _ => .mkdir path) fun os _ => .ok (os.mkdir path)

def command (p : Proc) (path : String) (verbose : Bool) (args : List String) : Command :=
  ⟨p.cwd, path, args, verbose⟩

@[simp] theorem command_log (p : Proc) (c : Call) (path : String) (verbose : Bool) (args : List String) :
    command (p.log c) path verbose args = command p path verbose args := rfl

def runCmd (path : String) (verbose : Bool) (args : List String) : Run Unit :=
  osCall (fun p => .run (command p path verbose args)) fun os p => nilOr (os.run (command p path verbose args))

def wait : Run Unit := osCall (fun _ => .wait) fun _ _ => .ok ()

-- `os.Chdir`, whose error every caller drops.
def chdir (dir : String) : Run Unit := fun os p =>
  (.ok (), match os.chdir dir with
    | none => { p.log (.chdir dir) with cwd := dir }
    | some _ => p.log (.chdir dir))

def startCmd (path : String) (verbose : Bool) (args : List String) : Run Unit := fun os p =>
  let cmd := command p path verbose args
  ((nilOr (os.start cmd)).mapError .error,
    { p.log (.start cmd) with child := some (cmd, (os.start cmd).isNone) })

-- `g.cmd.Process.Kill()`: a nil `g.cmd`, or a nil `Process` after a failed `Start`, is dereferenced.
def kill : Run Unit := fun _ p =>
  match p.child with
  | some (_, true) => (.ok (), p.log .kill)
  | _ => (.error nilDereference, p)

theorem kill_of_started {os : Os} {p : Proc} {cmd : Command} (started : p.child = some (cmd, true)) :
    kill os p = (.ok (), p.log .kill) := by
  simp [kill, started]

def FailsWith {α : Type} (allowed : Os → GoError → Prop) (x : Run α) : Prop :=
  ∀ os p e, (x os p).1 = .error (.error e) → allowed os e

def KeepsChild {α : Type} (x : Run α) : Prop := ∀ os p, (x os p).2.child = p.child

def NoPanic {α : Type} (x : Run α) : Prop := ∀ os p msg, (x os p).1 ≠ .error (.panic msg)

section Frame

variable {α β : Type}

theorem KeepsChild.pure (a : α) : KeepsChild (pure a : Run α) := fun _ _ => rfl

theorem NoPanic.pure (a : α) : NoPanic (pure a : Run α) := fun _ _ _ => nofun

theorem KeepsChild.fail (e : GoError) : KeepsChild (fail e : Run α) := fun _ _ => rfl

theorem NoPanic.fail (e : GoError) : NoPanic (fail e : Run α) := fun _ _ _ => nofun

theorem KeepsChild.osCall (call : Proc → Call) (answer : Os → Proc → Except GoError α) :
    KeepsChild (osCall call answer) := fun _ _ => rfl

theorem NoPanic.osCall (call : Proc → Call) (answer : Os → Proc → Except GoError α) :
    NoPanic (osCall call answer) := by
  intro os p msg
  cases h : answer os p <;> simp [ProtocolCtf.Harness.osCall, Except.mapError, h]

theorem KeepsChild.chdir (dir : String) : KeepsChild (chdir dir) := by
  intro os p
  cases h : os.chdir dir <;> simp [ProtocolCtf.Harness.chdir, h]

theorem NoPanic.chdir (dir : String) : NoPanic (chdir dir) := fun _ _ _ => nofun

theorem KeepsChild.ite {c : Prop} [Decidable c] {x y : Run α} (hx : KeepsChild x) (hy : KeepsChild y) :
    KeepsChild (if c then x else y) := by
  split <;> assumption

theorem NoPanic.ite {c : Prop} [Decidable c] {x y : Run α} (hx : NoPanic x) (hy : NoPanic y) :
    NoPanic (if c then x else y) := by
  split <;> assumption

theorem KeepsChild.bind {x : Run α} {f : α → Run β} (hx : KeepsChild x) (hf : ∀ a, KeepsChild (f a)) :
    KeepsChild (x >>= f) := by
  intro os p
  have kept := hx os p
  rcases ran : x os p with ⟨e | a, q⟩ <;> rw [ran] at kept
  · rw [Run.bind_of_error f ran]
    exact kept
  · rw [Run.bind_of_ok f ran, hf a os q]
    exact kept

theorem NoPanic.bind {x : Run α} {f : α → Run β} (hx : NoPanic x) (hf : ∀ a, NoPanic (f a)) :
    NoPanic (x >>= f) := by
  intro os p msg
  rcases ran : x os p with ⟨e | a, q⟩
  · rw [Run.bind_of_error f ran]
    simpa [ran] using hx os p msg
  · rw [Run.bind_of_ok f ran]
    exact hf a os q msg

theorem stops_or_continues {x : Run α} (keeps : KeepsChild x) (safe : NoPanic x) (os : Os) (p : Proc) :
    (∃ e q, x os p = (.error (.error e), q) ∧ q.child = p.child) ∨
      ∃ a q, x os p = (.ok a, q) ∧ q.child = p.child := by
  have kept := keeps os p
  have noPanic := safe os p
  rcases ran : x os p with ⟨(e | msg) | a, q⟩ <;> rw [ran] at kept noPanic
  · exact .inl ⟨e, q, rfl, kept⟩
  · exact absurd rfl (noPanic msg)
  · exact .inr ⟨a, q, rfl, kept⟩

theorem KeepsChild.deferring {cleanup : Run Unit} {body : Run α} (hc : KeepsChild cleanup)
    (hb : KeepsChild body) : KeepsChild (deferring cleanup body) := by
  intro os p
  rw [deferring_state, hc, hb]

theorem NoPanic.deferring {cleanup : Run Unit} {body : Run α} (hc : NoPanic cleanup)
    (hb : NoPanic body) : NoPanic (deferring cleanup body) := by
  intro os p msg
  have safe := hc os (body os p).2
  rcases cleaned : cleanup os (body os p).2 with ⟨(e | m) | ⟨⟩, q⟩ <;> rw [cleaned] at safe
  · simpa [ProtocolCtf.Harness.deferring, cleaned] using hb os p msg
  · exact absurd rfl (safe m)
  · simpa [ProtocolCtf.Harness.deferring, cleaned] using hb os p msg

section Errors

variable {allowed : Os → GoError → Prop}

theorem FailsWith.pure (a : α) : FailsWith allowed (pure a : Run α) := fun _ _ _ => nofun

theorem FailsWith.mono {allowed' : Os → GoError → Prop} (wider : ∀ os e, allowed os e → allowed' os e) {x : Run α}
    (hx : FailsWith allowed x) : FailsWith allowed' x :=
  fun os p e failed => wider os e (hx os p e failed)

theorem FailsWith.fail {e : GoError} (admitted : ∀ os, allowed os e) : FailsWith allowed (fail e : Run α) := by
  rintro os p _ ⟨⟩
  exact admitted os

theorem FailsWith.ofExcept {r : Except GoError α} (admitted : ∀ os e, r = .error e → allowed os e) :
    FailsWith allowed (ofExcept r) := by
  cases r with
  | error e => exact FailsWith.fail fun os => admitted os e rfl
  | ok a => exact FailsWith.pure a

theorem FailsWith.osCall {call : Proc → Call} {answer : Os → Proc → Except GoError α}
    (admitted : ∀ os p e, answer os p = .error e → allowed os e) : FailsWith allowed (osCall call answer) := by
  intro os p e failed
  cases answered : answer os p <;> simp [answered, Except.mapError] at failed
  exact admitted os p _ (failed ▸ answered)

theorem FailsWith.chdir (dir : String) : FailsWith allowed (chdir dir) := fun _ _ _ => nofun

theorem FailsWith.startCmd {path : String} {verbose : Bool} {args : List String}
    (admitted : ∀ os e cmd, os.start cmd = some e → allowed os e) : FailsWith allowed (startCmd path verbose args) := by
  intro os p e failed
  cases started : os.start (command p path verbose args) <;>
    simp [ProtocolCtf.Harness.startCmd, nilOr, Except.mapError, started] at failed
  exact admitted os _ _ (failed ▸ started)

theorem FailsWith.ite {c : Prop} [Decidable c] {x y : Run α} (hx : FailsWith allowed x) (hy : FailsWith allowed y) :
    FailsWith allowed (if c then x else y) := by
  split <;> assumption

theorem FailsWith.bind {x : Run α} {f : α → Run β} (hx : FailsWith allowed x) (hf : ∀ a, FailsWith allowed (f a)) :
    FailsWith allowed (x >>= f) := by
  intro os p e failed
  rcases ran : x os p with ⟨failure | a, q⟩
  · rw [Run.bind_of_error f ran] at failed
    cases failed
    exact hx os p e (by rw [ran])
  · rw [Run.bind_of_ok f ran] at failed
    exact hf a os q e failed

theorem FailsWith.deferring {cleanup : Run Unit} {body : Run α} (hb : FailsWith allowed body) :
    FailsWith allowed (deferring cleanup body) := by
  intro os p e failed
  rcases cleaned : cleanup os (body os p).2 with ⟨(f | m) | ⟨⟩, q⟩ <;>
    simp only [ProtocolCtf.Harness.deferring, cleaned] at failed
  · exact hb os p e failed
  · cases failed
  · exact hb os p e failed

end Errors

end Frame

def Keeps {α : Type} (os : Os) (inv : Proc → Prop) (x : Run α) : Prop := ∀ p, inv p → inv (x os p).2

section Invariants

variable {α β : Type} {os : Os} {inv : Proc → Prop}

theorem Keeps.pure (a : α) : Keeps os inv (pure a : Run α) := fun _ held => held

theorem Keeps.fail (e : GoError) : Keeps os inv (fail e : Run α) := fun _ held => held

theorem Keeps.ofExcept (r : Except GoError α) : Keeps os inv (ofExcept r) := by
  cases r <;> exact fun _ held => held

theorem Keeps.check (err : Option GoError) : Keeps os inv (check err) := by
  cases err <;> exact fun _ held => held

theorem Keeps.osCall {call : Proc → Call} {answer : Os → Proc → Except GoError α}
    (logged : ∀ p, inv p → inv (p.log (call p))) : Keeps os inv (osCall call answer) := logged

theorem Keeps.ite {c : Prop} [Decidable c] {x y : Run α} (hx : Keeps os inv x) (hy : Keeps os inv y) :
    Keeps os inv (if c then x else y) := by
  split <;> assumption

theorem Keeps.bind {x : Run α} {f : α → Run β} (hx : Keeps os inv x) (hf : ∀ a, Keeps os inv (f a)) :
    Keeps os inv (x >>= f) := by
  intro p held
  have kept := hx p held
  rcases ran : x os p with ⟨failure | a, q⟩ <;> rw [ran] at kept
  · rwa [Run.bind_of_error f ran]
  · rw [Run.bind_of_ok f ran]
    exact hf a q kept

theorem Keeps.deferring {cleanup : Run Unit} {body : Run α} (hc : Keeps os inv cleanup) (hb : Keeps os inv body) :
    Keeps os inv (deferring cleanup body) := fun p held => hc _ (hb p held)

end Invariants

def healthyOs : Os where
  getwd := .ok "/ctf"
  chdir _ := none
  removeAll _ := none
  mkdir _ := none
  run _ := none
  start _ := none
  poll := [⟨none, .ok 1⟩]
  dial := none
  blockNumber := .ok 1

end ProtocolCtf.Harness
