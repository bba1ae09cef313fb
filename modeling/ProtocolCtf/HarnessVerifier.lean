import ProtocolCtf.Harness

/- The verifier that drives go-ethereum through the harness: `checkFlag`, `makeDataDir` and `main`.
   `checkFlag` is written in three parts, as its Go body reads: the chain-head check after the
   client started (`verifyHead`), the client's lifecycle with `defer client.Close()`
   (`runClient`), and the outer part with `defer os.RemoveAll("datadir")`. Its context, with
   its three-second deadline, is in `Os.poll`: the passes of `Running` before the deadline.
   `runClient_cases` says once how a run of the lifecycle can end; what the verifier prints, that
   it never panics, and what it tears down on every way out all follow from it. -/

set_option autoImplicit false

namespace ProtocolCtf.Harness

def dial (addr : String) : Run Unit := osCall (fun _ => .dial addr) fun os _ => nilOr os.dial

def blockNumber : Run Nat := osCall (fun _ => .blockNumber) fun os _ => os.blockNumber

def makeDataDir (path : String) : Run Unit := do
  check (← removeAll path)
  check (← mkdir path)

def verifyHead (client : GethClient) : Run Unit := do
  let ok ← client.running
  if !ok then fail ⟨"unable to connect to client"⟩
  else
    dial client.httpAddr
    let num ← blockNumber
    if num ≠ 1 then fail ⟨"chain not loaded correctly"⟩ else pure ()

def runClient (client : GethClient) (skipCompile verbose : Bool) : Run Unit := do
  (if skipCompile then pure () else client.compile verbose)
  client.init verbose
  client.start verbose
  deferring client.close (verifyHead client)

def checkFlag (logLevelStr : String) (skipCompile verbose : Bool) : Run Unit := do
  let logLevel ← ofExcept (parseLogLevel logLevelStr)
  makeDataDir "datadir"
  deferring (do let _ ← removeAll "datadir") do
    let args : ClientArgs := ⟨true, logLevel, "datadir", "genesis.json", "chain.rlp"⟩
    let client ← ofExcept (newClient geth "go-ethereum" args)
    runClient client skipCompile verbose

def exit (msg : GoError) : Exit := .failure msg.msg

def main (logLevel : String) (quiet skipCompile : Bool) (os : Os) (cwd : String) : Exit × Proc :=
  let ran := checkFlag logLevel skipCompile (!quiet) os (Proc.initial cwd)
  (match ran.1 with
    | .ok () => .success "Flag captured."
    | .error (.error e) => exit e
    | .error (.panic msg) => .panic msg, ran.2)

def CheckFlagError (logLevelStr : String) (os : Os) (e : GoError) : Prop :=
  e = ⟨"unknown log level: " ++ logLevelStr⟩ ∨ e = ⟨"unable to connect to client"⟩ ∨
    e = ⟨"chain not loaded correctly"⟩ ∨ os.Answered e

theorem answered_checkFlagError (logLevelStr : String) (os : Os) (e : GoError) (answered : os.Answered e) :
    CheckFlagError logLevelStr os e :=
  .inr (.inr (.inr answered))

theorem verifyHead_ok (client : GethClient) (os : Os) (p : Proc) :
    (verifyHead client os p).1 = .ok () ↔
      runningLoop os.poll = true ∧ os.dial = none ∧ os.blockNumber = .ok 1 := by
  cases ready : runningLoop os.poll <;> cases dialed : os.dial <;> cases read : os.blockNumber <;>
    simp [verifyHead, GethClient.running, dial, blockNumber, fail, nilOr, Except.mapError, ready, dialed,
      read, ite_apply, apply_ite Prod.fst]

theorem verifyHead_ok_state {client : GethClient} {os : Os} {p : Proc} (ok : (verifyHead client os p).1 = .ok ()) :
    (verifyHead client os p).2 = ((p.log .poll).log (.dial client.httpAddr)).log .blockNumber := by
  obtain ⟨ready, dialed, read⟩ := (verifyHead_ok client os p).1 ok
  simp [verifyHead, GethClient.running, dial, blockNumber, nilOr, Except.mapError, ready, dialed, read, ite_apply]

theorem verifyHead_keepsChild (client : GethClient) : KeepsChild (verifyHead client) :=
  KeepsChild.bind (KeepsChild.osCall _ _) fun _ => KeepsChild.ite (KeepsChild.fail _) <|
    KeepsChild.bind (KeepsChild.osCall _ _) fun _ => KeepsChild.bind (KeepsChild.osCall _ _) fun _ =>
      KeepsChild.ite (KeepsChild.fail _) (KeepsChild.pure _)

theorem verifyHead_noPanic (client : GethClient) : NoPanic (verifyHead client) :=
  NoPanic.bind (NoPanic.osCall _ _) fun _ => NoPanic.ite (NoPanic.fail _) <|
    NoPanic.bind (NoPanic.osCall _ _) fun _ => NoPanic.bind (NoPanic.osCall _ _) fun _ =>
      NoPanic.ite (NoPanic.fail _) (NoPanic.pure _)

theorem verifyHead_failsWith (client : GethClient) (logLevelStr : String) :
    FailsWith (CheckFlagError logLevelStr) (verifyHead client) :=
  FailsWith.bind (FailsWith.osCall fun _ _ _ answered => nomatch answered) fun _ =>
    FailsWith.ite (FailsWith.fail fun _ => .inr (.inl rfl)) <|
      FailsWith.bind (FailsWith.osCall fun os _ _ failed =>
          answered_checkFlagError _ os _ (.dial (nilOr_eq_error.1 failed))) fun _ =>
        FailsWith.bind (FailsWith.osCall fun os _ _ failed => answered_checkFlagError _ os _ (.blockNumber failed))
          fun _ => FailsWith.ite (FailsWith.fail fun _ => .inr (.inr (.inl rfl))) (FailsWith.pure _)

theorem runClient_failsWith (client : GethClient) (skipCompile verbose : Bool) (logLevelStr : String) :
    FailsWith (CheckFlagError logLevelStr) (runClient client skipCompile verbose) :=
  FailsWith.bind (FailsWith.ite (FailsWith.pure _)
      (FailsWith.mono (answered_checkFlagError _) (client.compile_failsWith verbose))) fun _ =>
    FailsWith.bind (FailsWith.mono (answered_checkFlagError _) (client.init_failsWith verbose)) fun _ =>
      FailsWith.bind (FailsWith.mono (answered_checkFlagError _) (client.start_failsWith verbose)) fun _ =>
        FailsWith.deferring (verifyHead_failsWith client logLevelStr)

theorem runClient_cases (client : GethClient) (skipCompile verbose : Bool) (os : Os) (p : Proc)
    (idle : ∀ cmd, p.child ≠ some (cmd, true)) :
    (∃ e, (runClient client skipCompile verbose os p).1 = .error (.error e) ∧
      ∀ cmd, (runClient client skipCompile verbose os p).2.child ≠ some (cmd, true)) ∨
    ∃ q₁ q₂, (if skipCompile then pure () else client.compile verbose : Run Unit) os p = (.ok (), q₁) ∧
      client.init verbose os q₁ = (.ok (), q₂) ∧
      let cmd := command q₂ (gethBin client.path) verbose client.startOptions
      let q : Proc := { q₂.log (.start cmd) with child := some (cmd, true) }
      runClient client skipCompile verbose os p =
        ((verifyHead client os q).1, (((verifyHead client os q).2.log .kill).log .wait).log (.removeAll client.args.dataDir)) := by
  have build : KeepsChild (if skipCompile then pure () else client.compile verbose : Run Unit) ∧
      NoPanic (if skipCompile then pure () else client.compile verbose : Run Unit) :=
    ⟨KeepsChild.ite (KeepsChild.pure _) (client.compile_keepsChild verbose),
      NoPanic.ite (NoPanic.pure _) (client.compile_noPanic verbose)⟩
  unfold runClient
  rcases stops_or_continues build.1 build.2 os p with ⟨e, q, stopped, kept⟩ | ⟨⟨⟩, q₁, built, kept₁⟩
  · rw [Run.bind_of_error _ stopped]
    exact .inl ⟨e, rfl, kept ▸ idle⟩
  rw [Run.bind_of_ok _ built]
  rcases stops_or_continues (client.init_keepsChild verbose) (client.init_noPanic verbose) os q₁ with
    ⟨e, q, stopped, kept⟩ | ⟨⟨⟩, q₂, inited, -⟩
  · rw [Run.bind_of_error _ stopped]
    exact .inl ⟨e, rfl, (kept.trans kept₁) ▸ idle⟩
  rw [Run.bind_of_ok _ inited]
  rcases client.start_cases verbose os q₂ with ⟨e, failed⟩ | started
  · rw [Run.bind_of_error _ failed]
    exact .inl ⟨e, rfl, by simp⟩
  rw [Run.bind_of_ok _ started]
  exact .inr ⟨q₁, q₂, built, inited,
    deferring_of_cleanup_ok _ _ (client.close_of_started ((verifyHead_keepsChild client os _).trans rfl))⟩

theorem runClient_ok_calls {client : GethClient} {skipCompile verbose : Bool} {os : Os} {p : Proc}
    (idle : ∀ cmd, p.child ≠ some (cmd, true)) (ok : (runClient client skipCompile verbose os p).1 = .ok ()) :
    ∃ build dir, ((skipCompile = true ∧ build = [] ∧ dir = p.cwd) ∨
        (skipCompile = false ∧ ∃ root src, os.getwd = .ok root ∧ build =
          [.getwd, .chdir client.path, .run ⟨src, "go", ["run", "build/ci.go", "install", "./cmd/geth"], verbose⟩,
            .chdir root])) ∧
      (runClient client skipCompile verbose os p).2.calls = p.calls ++ build ++
        [.run ⟨dir, gethBin client.path, client.initOptions "init" client.args.genesisPath, verbose⟩,
          .run ⟨dir, gethBin client.path, client.initOptions "import" client.args.chainPath, verbose⟩,
          .start ⟨dir, gethBin client.path, client.startOptions, verbose⟩,
          .poll, .dial client.httpAddr, .blockNumber, .kill, .wait, .removeAll client.args.dataDir] := by
  rcases runClient_cases client skipCompile verbose os p idle with ⟨e, failed, -⟩ | ⟨q₁, q₂, built, inited, ran⟩
  · simp [failed] at ok
  rw [ran] at ok ⊢
  have initState := client.init_ok verbose (congrArg Prod.fst inited)
  rw [inited] at initState
  subst initState
  rw [verifyHead_ok_state ok]
  cases skipCompile
  · simp only [Bool.false_eq_true, if_false] at built
    obtain ⟨root, src, wd, calls⟩ := client.compile_ok verbose (congrArg Prod.fst built)
    simp only [built] at calls
    exact ⟨_, q₁.cwd, .inr ⟨rfl, root, src, wd, rfl⟩, by simp [calls, command]⟩
  · cases built
    exact ⟨[], p.cwd, .inl ⟨rfl, rfl, rfl⟩, by simp [command]⟩

theorem makeDataDir_apply (path : String) (os : Os) (p : Proc) :
    makeDataDir path os p = match os.removeAll path, os.mkdir path with
      | some e, _ => (.error (.error e), p.log (.removeAll path))
      | none, some e => (.error (.error e), (p.log (.removeAll path)).log (.mkdir path))
      | none, none => (.ok (), (p.log (.removeAll path)).log (.mkdir path)) := by
  cases removed : os.removeAll path <;> cases made : os.mkdir path <;>
    simp [makeDataDir, removeAll, mkdir, check, fail, Except.mapError, removed, made]

theorem makeDataDir_failsWith (path : String) : FailsWith Os.Answered (makeDataDir path) := by
  intro os p e failed
  rw [makeDataDir_apply] at failed
  cases removed : os.removeAll path <;> cases made : os.mkdir path <;> simp [removed, made] at failed
  · exact .mkdir (failed ▸ made)
  all_goals exact .removeAll (failed ▸ removed)

theorem checkFlag_failsWith (logLevelStr : String) (skipCompile verbose : Bool) :
    FailsWith (CheckFlagError logLevelStr) (checkFlag logLevelStr skipCompile verbose) :=
  FailsWith.bind (FailsWith.ofExcept fun _ _ refused => .inl (parseLogLevel_error refused)) fun _ =>
    FailsWith.bind (FailsWith.mono (answered_checkFlagError _) (makeDataDir_failsWith _)) fun _ =>
      FailsWith.deferring <| FailsWith.bind (FailsWith.ofExcept fun _ _ refused => by simp at refused) fun client =>
        runClient_failsWith client skipCompile verbose logLevelStr

theorem checkFlag_cases (logLevelStr : String) (skipCompile verbose : Bool) (os : Os) (p : Proc) :
    (∃ e, (checkFlag logLevelStr skipCompile verbose os p).1 = .error (.error e) ∧
      (checkFlag logLevelStr skipCompile verbose os p).2.child = p.child ∧
      ((∀ level, parseLogLevel logLevelStr ≠ .ok level) ∨ os.removeAll "datadir" ≠ none ∨
        os.mkdir "datadir" ≠ none)) ∨
    ∃ level client q, parseLogLevel logLevelStr = .ok level ∧ os.removeAll "datadir" = none ∧
      os.mkdir "datadir" = none ∧
      client = newGethClient "go-ethereum" ⟨true, level, "datadir", "genesis.json", "chain.rlp"⟩ ∧
      q = (p.log (.removeAll "datadir")).log (.mkdir "datadir") ∧
      checkFlag logLevelStr skipCompile verbose os p =
        ((runClient client skipCompile verbose os q).1, (runClient client skipCompile verbose os q).2.log (.removeAll "datadir")) := by
  unfold checkFlag
  rcases parsed : parseLogLevel logLevelStr with e | level
  · exact .inl ⟨e, rfl, rfl, .inl nofun⟩
  rw [Run.bind_of_ok _ (rfl : ofExcept (.ok level) os p = (.ok level, p))]
  have dir := makeDataDir_apply "datadir" os p
  rcases removed : os.removeAll "datadir" with _ | e <;> rcases made : os.mkdir "datadir" with _ | e' <;>
    simp only [removed, made] at dir
  · exact .inr ⟨level, _, _, rfl, rfl, rfl, rfl, rfl, by rw [Run.bind_of_ok _ dir]; rfl⟩
  · exact .inl ⟨e', by rw [Run.bind_of_error _ dir], by rw [Run.bind_of_error _ dir]; rfl, by simp⟩
  all_goals exact .inl ⟨e, by rw [Run.bind_of_error _ dir], by rw [Run.bind_of_error _ dir]; rfl, by simp⟩

theorem checkFlag_verdict (logLevelStr : String) (skipCompile verbose : Bool) (os : Os) (cwd : String) :
    (∃ e, (checkFlag logLevelStr skipCompile verbose os (Proc.initial cwd)).1 = .error (.error e)) ∨
      ∃ client q, (checkFlag logLevelStr skipCompile verbose os (Proc.initial cwd)).1 = (verifyHead client os q).1 := by
  rcases checkFlag_cases logLevelStr skipCompile verbose os (Proc.initial cwd) with
    ⟨e, failed, -⟩ | ⟨_, client, q, -, -, -, -, fresh, ran⟩
  · exact .inl ⟨e, failed⟩
  rw [ran]
  rcases runClient_cases client skipCompile verbose os q (by simp [fresh, Proc.initial]) with
    ⟨e, failed, -⟩ | ⟨_, _, -, -, ran⟩
  · exact .inl ⟨e, failed⟩
  rw [ran]
  exact .inr ⟨client, _, rfl⟩

section Main

variable (logLevel : String) (quiet skipCompile : Bool) (os : Os) (cwd : String)

theorem main_state : (main logLevel quiet skipCompile os cwd).2 =
    (checkFlag logLevel skipCompile (!quiet) os (Proc.initial cwd)).2 := rfl

theorem main_success {out : String} (captured : (main logLevel quiet skipCompile os cwd).1 = .success out) :
    (checkFlag logLevel skipCompile (!quiet) os (Proc.initial cwd)).1 = .ok () := by
  revert captured
  simp only [main]
  split <;> simp [exit, *]

theorem main_panic {msg : String} (panicked : (main logLevel quiet skipCompile os cwd).1 = .panic msg) :
    (checkFlag logLevel skipCompile (!quiet) os (Proc.initial cwd)).1 = .error (.panic msg) := by
  revert panicked
  simp only [main]
  split <;> simp [exit, *]

/-- `Flag captured.` is printed only when `Running` reached the client before the deadline and the
    client then reported block number 1. -/
theorem main_captures_only_at_head_one {out : String}
    (captured : (main logLevel quiet skipCompile os cwd).1 = .success out) :
    runningLoop os.poll = true ∧ os.dial = none ∧ os.blockNumber = .ok 1 := by
  have ok := main_success logLevel quiet skipCompile os cwd captured
  rcases checkFlag_verdict logLevel skipCompile (!quiet) os cwd with ⟨e, failed⟩ | ⟨client, q, verdict⟩
  · simp [failed] at ok
  exact (verifyHead_ok client os q).1 (verdict ▸ ok)

theorem healthy_run_captured :
    (main "info" false true healthyOs "/ctf").1 = .success "Flag captured." ∧
      runningLoop healthyOs.poll = true ∧ healthyOs.dial = none ∧ healthyOs.blockNumber = .ok 1 :=
  ⟨rfl, main_captures_only_at_head_one "info" false true healthyOs "/ctf" rfl⟩

/-- A run that prints `Flag captured.` makes exactly these calls, in this order: it resets the data
    directory, builds geth unless told not to, runs `geth init` and `geth import` on the fixtures,
    starts geth with its RPC on localhost:8545, polls it, asks for the block number, and tears down. -/
theorem main_captured_calls {out : String} (captured : (main logLevel quiet skipCompile os cwd).1 = .success out) :
    ∃ level build dir, parseLogLevel logLevel = .ok level ∧
      ((skipCompile = true ∧ build = [] ∧ dir = cwd) ∨
        (skipCompile = false ∧ ∃ root src, os.getwd = .ok root ∧ build =
          [.getwd, .chdir "go-ethereum", .run ⟨src, "go", ["run", "build/ci.go", "install", "./cmd/geth"], !quiet⟩,
            .chdir root])) ∧
      let options := ["--fakepow", "--datadir=datadir", "--verbosity=" ++ toString level.toNat]
      (main logLevel quiet skipCompile os cwd).2.calls = [.removeAll "datadir", .mkdir "datadir"] ++ build ++
        [.run ⟨dir, "go-ethereum/build/bin/geth", options ++ ["init", "genesis.json"], !quiet⟩,
          .run ⟨dir, "go-ethereum/build/bin/geth", options ++ ["import", "chain.rlp"], !quiet⟩,
          .start ⟨dir, "go-ethereum/build/bin/geth", options ++ ["--port=33333", "--nodiscover", "--http",
            "--http.api=admin,eth,debug", "--http.addr=localhost", "--http.port=8545"], !quiet⟩,
          .poll, .dial "http://localhost:8545", .blockNumber, .kill, .wait, .removeAll "datadir",
          .removeAll "datadir"] := by
  have ok := main_success logLevel quiet skipCompile os cwd captured
  rcases checkFlag_cases logLevel skipCompile (!quiet) os (Proc.initial cwd) with
    ⟨e, failed, -⟩ | ⟨level, client, q, parsed, -, -, named, fresh, ran⟩
  · simp [failed] at ok
  rw [ran] at ok
  obtain ⟨build, dir, built, calls⟩ := runClient_ok_calls (by simp [fresh, Proc.initial]) ok
  subst named fresh
  refine ⟨level, build, dir, parsed, by simpa [newGethClient, Proc.initial] using built, ?_⟩
  rw [main_state, ran, Proc.log_calls, calls]
  simp [newGethClient, Proc.initial, GethClient.initOptions, GethClient.startOptions, maybePrepend, gethBin,
    GethClient.httpAddr, host, port, networkPort]

theorem healthy_run_calls :
    (main "info" false true healthyOs "/ctf").1 = .success "Flag captured." ∧
    ∃ level build dir, parseLogLevel "info" = .ok level ∧
      ((true = true ∧ build = [] ∧ dir = "/ctf") ∨
        (true = false ∧ ∃ root src, healthyOs.getwd = .ok root ∧ build =
          [.getwd, .chdir "go-ethereum", .run ⟨src, "go", ["run", "build/ci.go", "install", "./cmd/geth"], !false⟩,
            .chdir root])) ∧
      let options := ["--fakepow", "--datadir=datadir", "--verbosity=" ++ toString level.toNat]
      (main "info" false true healthyOs "/ctf").2.calls = [.removeAll "datadir", .mkdir "datadir"] ++ build ++
        [.run ⟨dir, "go-ethereum/build/bin/geth", options ++ ["init", "genesis.json"], !false⟩,
          .run ⟨dir, "go-ethereum/build/bin/geth", options ++ ["import", "chain.rlp"], !false⟩,
          .start ⟨dir, "go-ethereum/build/bin/geth", options ++ ["--port=33333", "--nodiscover", "--http",
            "--http.api=admin,eth,debug", "--http.addr=localhost", "--http.port=8545"], !false⟩,
          .poll, .dial "http://localhost:8545", .blockNumber, .kill, .wait, .removeAll "datadir",
          .removeAll "datadir"] :=
  ⟨rfl, main_captured_calls "info" false true healthyOs "/ctf" rfl⟩

/-- What the harness verifier prints on failure is the text of the error `checkFlag` returned, and
    that error is the log level's refusal, one of its two texts, or an error a call returned. -/
theorem main_failure_messages {msg : String} (failed : (main logLevel quiet skipCompile os cwd).1 = .failure msg) :
    ∃ e, CheckFlagError logLevel os e ∧ msg = e.msg := by
  revert failed
  simp only [main]
  split
  · simp
  · rename_i e returned
    intro failed
    exact ⟨e, checkFlag_failsWith logLevel skipCompile (!quiet) os _ e returned, by simpa [exit] using failed.symm⟩
  · simp

theorem failed_start_reported :
    (main "info" false true { healthyOs with start := fun _ => some ⟨"fork/exec: no such file or directory"⟩ } "/ctf").1 =
        .failure "fork/exec: no such file or directory" ∧
      ∃ e, CheckFlagError "info" { healthyOs with start := fun _ => some ⟨"fork/exec: no such file or directory"⟩ } e ∧
        "fork/exec: no such file or directory" = e.msg :=
  ⟨rfl, main_failure_messages "info" false true _ "/ctf" rfl⟩

theorem main_never_panics (msg : String) : (main logLevel quiet skipCompile os cwd).1 ≠ .panic msg := by
  intro panicked
  have failed := main_panic logLevel quiet skipCompile os cwd panicked
  rcases checkFlag_verdict logLevel skipCompile (!quiet) os cwd with ⟨e, stopped⟩ | ⟨client, q, verdict⟩
  · simp [stopped] at failed
  exact verifyHead_noPanic client os q msg (verdict ▸ failed)

/-- A run that made the data directory removes it as its last call, whichever way it ends. -/
theorem main_removes_datadir_last {level : LogLevel} (parsed : parseLogLevel logLevel = .ok level)
    (removed : os.removeAll "datadir" = none) (made : os.mkdir "datadir" = none) :
    (main logLevel quiet skipCompile os cwd).2.calls.getLast? = some (.removeAll "datadir") := by
  rw [main_state]
  rcases checkFlag_cases logLevel skipCompile (!quiet) os (Proc.initial cwd) with
    ⟨-, -, -, refused⟩ | ⟨_, _, _, -, -, -, -, -, ran⟩
  · simp [parsed, removed, made] at refused
  rw [ran]
  simp

theorem failed_build_removes_datadir :
    (main "info" false false { healthyOs with run := fun _ => some ⟨"exit status 1"⟩ } "/ctf").1 =
        .failure "exit status 1" ∧
      ((main "info" false false { healthyOs with run := fun _ => some ⟨"exit status 1"⟩ } "/ctf").2.calls.getLast? =
        some (.removeAll "datadir")) :=
  ⟨rfl, @main_removes_datadir_last "info" false false _ "/ctf" .info rfl rfl rfl⟩

/-- A run that started the client ends by killing it, waiting for it, and removing its data
    directory, then the harness's own. -/
theorem main_stops_started_client {cmd : Command}
    (started : (main logLevel quiet skipCompile os cwd).2.child = some (cmd, true)) :
    ∃ before, (main logLevel quiet skipCompile os cwd).2.calls =
      before ++ [.kill, .wait, .removeAll "datadir", .removeAll "datadir"] := by
  rw [main_state] at started ⊢
  rcases checkFlag_cases logLevel skipCompile (!quiet) os (Proc.initial cwd) with
    ⟨e, -, kept, -⟩ | ⟨_, client, q, -, -, -, named, fresh, ran⟩
  · rw [kept] at started
    cases started
  rw [ran] at started ⊢
  rcases runClient_cases client skipCompile (!quiet) os q (by simp [fresh, Proc.initial]) with
    ⟨e, -, idle⟩ | ⟨_, _, -, -, ran⟩
  · exact absurd started (idle cmd)
  rw [ran]
  simp only [Proc.log_calls, List.append_assoc, List.singleton_append, named, newGethClient]
  exact ⟨_, rfl⟩

theorem wrong_head_stops_client :
    (main "info" false true { healthyOs with blockNumber := .ok 2 } "/ctf").1 = .failure "chain not loaded correctly" ∧
      ∃ before, (main "info" false true { healthyOs with blockNumber := .ok 2 } "/ctf").2.calls =
        before ++ [.kill, .wait, .removeAll "datadir", .removeAll "datadir"] :=
  ⟨rfl, @main_stops_started_client "info" false true _ "/ctf" _ rfl⟩

end Main

end ProtocolCtf.Harness
