import ProtocolCtf.HarnessVerifier

/- Invariants of every run of the harness verifier. `checkFlag` is built from a few kinds of step: calls
   that only read or clean up, the build, `Init`, `Start` and `Kill`; an invariant of the process state
   that each of them keeps holds at the end of every run, however it ends (`checkFlag_keeps`). `InDir`
   is one: every geth command runs in the directory the verifier started in, which `Compile` leaves
   for the build and returns to through its deferred `Chdir`. -/

set_option autoImplicit false

namespace ProtocolCtf.Harness

def Call.changesProcess : Call → Bool
  | .chdir _ | .run _ | .start _ | .kill => true
  | _ => false

section Composition

variable {os : Os} {inv : Proc → Prop}

theorem close_keeps (logs : ∀ p c, inv p → c.changesProcess = false → inv (p.log c)) (kills : Keeps os inv kill)
    (g : GethClient) : Keeps os inv g.close :=
  Keeps.bind kills fun _ => Keeps.bind (Keeps.osCall fun p held => logs p _ held rfl) fun _ =>
    Keeps.bind (Keeps.osCall fun p held => logs p _ held rfl) fun _ => Keeps.pure _

theorem verifyHead_keeps (logs : ∀ p c, inv p → c.changesProcess = false → inv (p.log c)) (client : GethClient) :
    Keeps os inv (verifyHead client) :=
  Keeps.bind (Keeps.osCall fun p held => logs p _ held rfl) fun _ => Keeps.ite (Keeps.fail _) <|
    Keeps.bind (Keeps.osCall fun p held => logs p _ held rfl) fun _ =>
      Keeps.bind (Keeps.osCall fun p held => logs p _ held rfl) fun _ => Keeps.ite (Keeps.fail _) (Keeps.pure _)

theorem checkFlag_keeps {logLevelStr : String} {skipCompile verbose : Bool}
    (logs : ∀ p c, inv p → c.changesProcess = false → inv (p.log c))
    (builds : ∀ client : GethClient, Keeps os inv (if skipCompile then pure () else client.compile verbose))
    (inits : ∀ client : GethClient, Keeps os inv (client.init verbose))
    (starts : ∀ client : GethClient, Keeps os inv (client.start verbose)) (kills : Keeps os inv kill) :
    Keeps os inv (checkFlag logLevelStr skipCompile verbose) :=
  have quiet : ∀ {α : Type} (call : Call) (answer : Os → Proc → Except GoError α),
      call.changesProcess = false → Keeps os inv (osCall (fun _ => call) answer) :=
    fun _ _ quiet => Keeps.osCall fun p held => logs p _ held quiet
  Keeps.bind (Keeps.ofExcept _) fun _ =>
    Keeps.bind (Keeps.bind (quiet _ _ rfl) fun _ => Keeps.bind (Keeps.check _) fun _ =>
      Keeps.bind (quiet _ _ rfl) fun _ => Keeps.check _) fun _ =>
    Keeps.deferring (Keeps.bind (quiet _ _ rfl) fun _ => Keeps.pure _) <|
      Keeps.bind (Keeps.ofExcept _) fun client =>
        Keeps.bind (builds client) fun _ => Keeps.bind (inits client) fun _ => Keeps.bind (starts client) fun _ =>
          Keeps.deferring (close_keeps logs kills client) (verifyHead_keeps logs client)

end Composition

def Call.command : Call → Option Command
  | .run cmd | .start cmd => some cmd
  | _ => none

def RunsIn (dir bin : String) (calls : List Call) : Prop :=
  ∀ c ∈ calls, ∀ cmd, c.command = some cmd → cmd.path = bin → cmd.dir = dir

theorem RunsIn.log {dir bin : String} {calls : List Call} (held : RunsIn dir bin calls) (c : Call)
    (fine : ∀ cmd, c.command = some cmd → cmd.path = bin → cmd.dir = dir) : RunsIn dir bin (calls ++ [c]) := by
  intro c' logged
  rcases List.mem_append.1 logged with old | new
  · exact held c' old
  · exact List.mem_singleton.1 new ▸ fine

structure InDir (dir bin : String) (p : Proc) : Prop where
  cwd : p.cwd = dir
  runs : RunsIn dir bin p.calls

namespace InDir

variable {dir bin : String} {os : Os}

theorem initial (dir bin : String) : InDir dir bin (Proc.initial dir) :=
  ⟨rfl, fun _ => nofun⟩

theorem logs (q : Proc) (c : Call) (held : InDir dir bin q) (quiet : c.changesProcess = false) :
    InDir dir bin (q.log c) :=
  ⟨held.cwd, held.runs.log c fun _ made => by cases c <;> cases made <;> cases quiet⟩

theorem runCmd (path : String) (verbose : Bool) (args : List String) :
    Keeps os (InDir dir bin) (runCmd path verbose args) :=
  Keeps.osCall fun q held => ⟨held.cwd, held.runs.log _ fun _ made _ => by
    cases made
    exact held.cwd⟩

theorem startCmd (path : String) (verbose : Bool) (args : List String) :
    Keeps os (InDir dir bin) (startCmd path verbose args) :=
  fun q held => ⟨held.cwd, held.runs.log _ fun _ made _ => by
    cases made
    exact held.cwd⟩

theorem kill : Keeps os (InDir dir bin) kill := by
  intro p held
  unfold ProtocolCtf.Harness.kill
  split
  · exact ⟨held.cwd, held.runs.log _ fun _ => nofun⟩
  · exact held

theorem chdir_runs (d : String) : Keeps os (fun q => RunsIn dir bin q.calls) (chdir d) := by
  intro p held
  cases answer : os.chdir d <;> simp only [ProtocolCtf.Harness.chdir, answer] <;>
    exact held.log _ fun _ => nofun

theorem compile_runs (g : GethClient) (verbose : Bool) (notGo : "go" ≠ bin) :
    Keeps os (fun q => RunsIn dir bin q.calls) (g.compile verbose) :=
  Keeps.bind (Keeps.osCall fun _ held => held.log _ fun _ => nofun) fun _ =>
    Keeps.deferring (chdir_runs _) <| Keeps.bind (chdir_runs _) fun _ =>
      Keeps.osCall fun _ held => held.log _ fun _ made named => by
        cases made
        exact absurd named notGo

theorem compile (g : GethClient) (verbose : Bool) (notGo : "go" ≠ bin)
    (back : ∀ root, os.getwd = .ok root → root = dir ∧ os.chdir root = none) :
    Keeps os (InDir dir bin) (g.compile verbose) := by
  intro p held
  refine ⟨?_, compile_runs g verbose notGo p held.runs⟩
  rcases wd : os.getwd with e | root
  · simpa [GethClient.compile, getwd, wd, Except.mapError] using held.cwd
  · obtain ⟨rfl, returned⟩ := back root wd
    simp only [GethClient.compile, getwd, Run.bind_apply, osCall_apply, wd, Except.mapError, deferring_state]
    simp [ProtocolCtf.Harness.chdir, returned]

end InDir

section Main

variable (logLevel : String) (quiet skipCompile : Bool) (os : Os) (cwd : String)

/-- Every geth command of a run, `Init`'s two and `Start`'s, runs in the directory the verifier started
    in, when the build is skipped or `Getwd` answers that directory and `Chdir` back to it succeeds:
    the build's move to the client's directory does not outlive it. -/
theorem main_runs_geth_in_start_dir (settled : skipCompile = true ∨ (os.getwd = .ok cwd ∧ os.chdir cwd = none))
    (cmd : Command)
    (ran : .run cmd ∈ (main logLevel quiet skipCompile os cwd).2.calls ∨
      .start cmd ∈ (main logLevel quiet skipCompile os cwd).2.calls)
    (geth : cmd.path = gethBin "go-ethereum") : cmd.dir = cwd :=
  have builds : ∀ g : GethClient,
      Keeps os (InDir cwd (gethBin "go-ethereum")) (if skipCompile then pure () else g.compile (!quiet)) := by
    intro g
    split
    · exact Keeps.pure ()
    · obtain ⟨wd, returned⟩ := settled.resolve_left ‹_›
      exact InDir.compile g _ (by decide) fun root answered => by
        cases wd.symm.trans answered
        exact ⟨rfl, returned⟩
  have kept : InDir cwd (gethBin "go-ethereum") (checkFlag logLevel skipCompile (!quiet) os (Proc.initial cwd)).2 :=
    checkFlag_keeps InDir.logs builds (fun _ => Keeps.bind (InDir.runCmd _ _ _) fun _ => InDir.runCmd _ _ _)
      (fun _ => InDir.startCmd _ _ _) InDir.kill _ (InDir.initial _ _)
  ran.elim (fun run => kept.runs _ run cmd rfl geth) fun start => kept.runs _ start cmd rfl geth

theorem healthy_build_runs_geth_in_place :
    (false = true ∨ (healthyOs.getwd = .ok "/ctf" ∧ healthyOs.chdir "/ctf" = none)) ∧
      (.run ⟨"/ctf", "go-ethereum/build/bin/geth", ["--fakepow", "--datadir=datadir", "--verbosity=3", "init",
          "genesis.json"], true⟩ ∈ (main "info" false false healthyOs "/ctf").2.calls ∨
        .start ⟨"/ctf", "go-ethereum/build/bin/geth", ["--fakepow", "--datadir=datadir", "--verbosity=3", "init",
          "genesis.json"], true⟩ ∈ (main "info" false false healthyOs "/ctf").2.calls) ∧
      ("go-ethereum/build/bin/geth" = gethBin "go-ethereum") ∧ "/ctf" = "/ctf" :=
  ⟨.inr ⟨rfl, rfl⟩, .inl (by decide), rfl,
    main_runs_geth_in_start_dir "info" false false healthyOs "/ctf" (.inr ⟨rfl, rfl⟩)
      ⟨"/ctf", "go-ethereum/build/bin/geth", ["--fakepow", "--datadir=datadir", "--verbosity=3", "init",
        "genesis.json"], true⟩ (.inl (by decide)) rfl⟩

end Main

end ProtocolCtf.Harness
