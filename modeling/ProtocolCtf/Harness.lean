import ProtocolCtf.Process

/- The `harness` package: a go-ethereum client driven as a subprocess, through `Compile`, `Init`,
   `Start`, `Running` and `Close`. Each method's lemmas say what the verifier needs of it:
   which methods leave the client's process alone, that none but `Close` can panic, which errors
   each can return, and what `Close` does to a started process. -/

set_option autoImplicit false

namespace ProtocolCtf.Harness

def networkPort : String := "33333"
def host : String := "localhost"
def port : String := "8545"

inductive LogLevel where
  | none
  | err
  | warn
  | info
  | debug
  | trace
deriving DecidableEq, Repr

def LogLevel.toNat : LogLevel → Nat
  | .none => 0
  | .err => 1
  | .warn => 2
  | .info => 3
  | .debug => 4
  | .trace => 5

def parseLogLevel (s : String) : Except GoError LogLevel :=
  match s with
  | "none" => .ok .none
  | "error" => .ok .err
  | "warn" => .ok .warn
  | "info" => .ok .info
  | "debug" => .ok .debug
  | "Trace" => .ok .trace
  | _ => .error ⟨"unknown log level: " ++ s⟩

example : parseLogLevel "Trace" = .ok .trace ∧ parseLogLevel "trace" = .error ⟨"unknown log level: trace"⟩ :=
  ⟨rfl, rfl⟩

theorem parseLogLevel_error {s : String} {e : GoError} (refused : parseLogLevel s = .error e) :
    e = ⟨"unknown log level: " ++ s⟩ := by
  revert refused
  unfold parseLogLevel
  split <;> simp [eq_comm]

structure ClientArgs where
  fakePow : Bool
  logLevel : LogLevel
  dataDir : String
  genesisPath : String
  chainPath : String
deriving DecidableEq, Repr

def gethBin (root : String) : String := root ++ "/build/bin/geth"

def maybePrepend (shouldAdd : Bool) (options maybe : List String) : List String :=
  if shouldAdd then maybe ++ options else options

-- `Running`'s loop: `true` at the first pass where dialing and `eth_blockNumber` both succeed,
-- `false` once the deadline has passed.
def runningLoop : List Attempt → Bool
  | [] => false
  | attempt :: rest =>
      match attempt.dial with
      | some _ => runningLoop rest
      | none =>
          match attempt.blockNumber with
          | .ok _ => true
          | .error _ => runningLoop rest

/-- The client counts as running exactly when one pass before the deadline both dialed and read a
    block number. -/
theorem runningLoop_iff (attempts : List Attempt) :
    runningLoop attempts = true ↔ ∃ a ∈ attempts, a.dial = none ∧ ∃ n, a.blockNumber = .ok n := by
  induction attempts with
  | nil => simp [runningLoop]
  | cons a rest ih =>
      rcases dialed : a.dial with _ | e <;> rcases read : a.blockNumber with e' | n <;>
        simp [runningLoop, dialed, read, ih]

structure GethClient where
  path : String
  args : ClientArgs

def newGethClient (path : String) (args : ClientArgs) : GethClient := ⟨path, args⟩

def geth : Int := 0

def newClient (t : Int) (path : String) (args : ClientArgs) : Except GoError GethClient :=
  if t = geth then .ok (newGethClient path args) else .error ⟨"client type unimplemented"⟩

@[simp] theorem newClient_geth (path : String) (args : ClientArgs) :
    newClient geth path args = .ok (newGethClient path args) := if_pos rfl

namespace GethClient

def compile (g : GethClient) (verbose : Bool) : Run Unit := do
  let dir ← getwd
  deferring (chdir dir) do
    chdir g.path
    runCmd "go" verbose ["run", "build/ci.go", "install", "./cmd/geth"]

def initOptions (g : GethClient) (subcommand path : String) : List String :=
  maybePrepend g.args.fakePow
    ["--datadir=" ++ g.args.dataDir, "--verbosity=" ++ toString g.args.logLevel.toNat, subcommand, path]
    ["--fakepow"]

def init (g : GethClient) (verbose : Bool) : Run Unit := do
  runCmd (gethBin g.path) verbose (g.initOptions "init" g.args.genesisPath)
  runCmd (gethBin g.path) verbose (g.initOptions "import" g.args.chainPath)

def startOptions (g : GethClient) : List String :=
  maybePrepend g.args.fakePow
    ["--datadir=" ++ g.args.dataDir, "--verbosity=" ++ toString g.args.logLevel.toNat,
      "--port=" ++ networkPort, "--nodiscover", "--http", "--http.api=admin,eth,debug",
      "--http.addr=" ++ host, "--http.port=" ++ port]
    ["--fakepow"]

def start (g : GethClient) (verbose : Bool) : Run Unit :=
  startCmd (gethBin g.path) verbose g.startOptions

def httpAddr (_ : GethClient) : String := "http://" ++ host ++ ":" ++ port

def close (g : GethClient) : Run Unit := do
  kill
  wait
  let _ ← removeAll g.args.dataDir

def running (_ : GethClient) : Run Bool := osCall (fun _ => .poll) fun os _ => .ok (runningLoop os.poll)

variable (g : GethClient) (verbose : Bool)

theorem compile_keepsChild : KeepsChild (g.compile verbose) :=
  KeepsChild.bind (KeepsChild.osCall _ _) fun dir =>
    KeepsChild.deferring (KeepsChild.chdir dir) (KeepsChild.bind (KeepsChild.chdir _) fun _ => KeepsChild.osCall _ _)

theorem compile_noPanic : NoPanic (g.compile verbose) :=
  NoPanic.bind (NoPanic.osCall _ _) fun dir =>
    NoPanic.deferring (NoPanic.chdir dir) (NoPanic.bind (NoPanic.chdir _) fun _ => NoPanic.osCall _ _)

theorem compile_ok {os : Os} {p : Proc} (built : (g.compile verbose os p).1 = .ok ()) :
    ∃ root src, os.getwd = .ok root ∧ (g.compile verbose os p).2.calls =
      p.calls ++ [.getwd, .chdir g.path, .run ⟨src, "go", ["run", "build/ci.go", "install", "./cmd/geth"], verbose⟩,
        .chdir root] := by
  rcases wd : os.getwd with e | root
  · simp [compile, getwd, wd, Except.mapError] at built
  refine ⟨root, (chdir g.path os (p.log .getwd)).2.cwd, rfl, ?_⟩
  simp only [compile, getwd, Run.bind_apply, osCall_apply, wd, Except.mapError, deferring_state]
  cases moved : os.chdir g.path <;> cases back : os.chdir root <;> simp [chdir, runCmd, command, moved, back]

theorem init_keepsChild : KeepsChild (g.init verbose) :=
  KeepsChild.bind (KeepsChild.osCall _ _) fun _ => KeepsChild.osCall _ _

theorem init_noPanic : NoPanic (g.init verbose) :=
  NoPanic.bind (NoPanic.osCall _ _) fun _ => NoPanic.osCall _ _

theorem init_ok {os : Os} {p : Proc} (inited : (g.init verbose os p).1 = .ok ()) :
    (g.init verbose os p).2 = (p.log (.run (command p (gethBin g.path) verbose (g.initOptions "init" g.args.genesisPath)))).log
      (.run (command p (gethBin g.path) verbose (g.initOptions "import" g.args.chainPath))) := by
  revert inited
  cases first : os.run (command p (gethBin g.path) verbose (g.initOptions "init" g.args.genesisPath)) <;>
    cases second : os.run (command p (gethBin g.path) verbose (g.initOptions "import" g.args.chainPath)) <;>
    simp [init, runCmd, nilOr, Except.mapError, first, second]

theorem compile_failsWith : FailsWith Os.Answered (g.compile verbose) :=
  FailsWith.bind (FailsWith.osCall fun _ _ _ => .getwd) fun _ =>
    FailsWith.deferring <| FailsWith.bind (FailsWith.chdir _) fun _ =>
      FailsWith.osCall fun _ _ _ failed => .run (nilOr_eq_error.1 failed)

theorem init_failsWith : FailsWith Os.Answered (g.init verbose) :=
  FailsWith.bind (FailsWith.osCall fun _ _ _ failed => .run (nilOr_eq_error.1 failed)) fun _ =>
    FailsWith.osCall fun _ _ _ failed => .run (nilOr_eq_error.1 failed)

theorem start_failsWith : FailsWith Os.Answered (g.start verbose) :=
  FailsWith.startCmd fun _ _ _ => .start

theorem start_cases (os : Os) (p : Proc) :
    let cmd := command p (gethBin g.path) verbose g.startOptions
    (∃ e, g.start verbose os p = (.error (.error e), { p.log (.start cmd) with child := some (cmd, false) })) ∨
      g.start verbose os p = (.ok (), { p.log (.start cmd) with child := some (cmd, true) }) := by
  intro cmd
  cases h : os.start cmd <;> simp [start, startCmd, nilOr, Except.mapError, cmd, h]

theorem close_of_started {os : Os} {p : Proc} {cmd : Command} (started : p.child = some (cmd, true)) :
    g.close os p = (.ok (), ((p.log .kill).log .wait).log (.removeAll g.args.dataDir)) := by
  unfold close
  rw [Run.bind_of_ok _ (kill_of_started started)]
  rfl

end GethClient

end ProtocolCtf.Harness
