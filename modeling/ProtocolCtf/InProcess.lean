import ProtocolCtf.Loader

/- The two verifiers that run go-ethereum inside their own process: `runGeth`, `startConsole` and
   `checkFlag`, in the first form (flag `-dev`) and the second (flags `-console` and `-loglevel`).
   The forms differ in one branch: on a failed block query the first returns the query's error,
   the second its own message. The node is known by its answers (`Node`); what it answers about
   block 1 may depend on the blocks it was asked to import. Both forms return nil when attaching
   to the node fails, before the flag is looked at. -/

set_option autoImplicit false

namespace ProtocolCtf

-- One field per call site. `blockByNumber inserted n` is the node's answer to
-- `eth.BlockByNumber(ctx, n)` after `InsertChain(inserted)`; the error `InsertChain` returns is
-- printed and dropped by the code, so it is not part of the model.
structure Node where
  new : Option GoError
  ethNew : Genesis → Nat → Option GoError
  start : Option GoError
  consoleAttach : Option GoError
  consoleNew : Option GoError
  attach : Option GoError
  blockByNumber : List Block → Nat → Except GoError Block

-- `chain.genesis.Config.ChainID.Uint64()`, which dereferences a nil `Config` or `ChainID`.
def networkId (gen : Genesis) : Except Failure Nat :=
  match gen.config with
  | none => .error nilDereference
  | some config =>
      match config.chainID with
      | none => .error nilDereference
      | some id => .ok (uint64 id)

def runGeth (lib : Library) (fs : FileSystem) (node : Node) : Except Failure (List Block) :=
  match node.new with
  | some err => .error (.error err)
  | none =>
      match loadChain lib fs "chain.rlp" "genesis.json" with
      | .error err => .error (.error err)
      | .ok chain =>
          match networkId chain.genesis with
          | .error failure => .error failure
          | .ok id =>
              match node.ethNew chain.genesis id with
              | some err => .error (.error err)
              | none =>
                  match node.start with
                  | some err => .error (.error err)
                  | none => .ok chain.blocks.tail

def startConsole (node : Node) : Option GoError :=
  match node.consoleAttach with
  | some err => some ⟨"Failed to attach to geth: " ++ err.msg⟩
  | none =>
      match node.consoleNew with
      | some err => some ⟨"Failed to start console: " ++ err.msg⟩
      | none => none

def flagHash : Hash := 0x31553f1bb856b900a24d456f51ac4372fa57e08c5a16812db3ff87e63320bf26#256

-- `checkFlag` of both forms; `headError` is what a failed block query returns.
def checkFlagWith (headError : GoError → GoError) (lib : Library) (fs : FileSystem) (node : Node)
    (consoleMode : Bool) : Except Failure Unit :=
  match runGeth lib fs node with
  | .error failure => .error failure
  | .ok inserted =>
      match (if consoleMode then startConsole node else none) with
      | some err => .error (.error err)
      | none =>
          match node.attach with
          | some _ => .ok ()
          | none =>
              match node.blockByNumber inserted 1 with
              | .error err => .error (.error (headError err))
              | .ok block =>
                  if block.hash ≠ flagHash then .error (.error ⟨"could not load chain"⟩) else .ok ()

def flagExit : Except Failure Unit → Exit
  | .ok () => .success "Flag captured."
  | .error (.error err) => .failure ("Flag not captured: " ++ err.msg)
  | .error (.panic msg) => .panic msg

theorem runGeth_ok {lib : Library} {fs : FileSystem} {node : Node} {inserted : List Block}
    (started : runGeth lib fs node = .ok inserted) :
    ∃ fx : Fixture, loadChain lib fs "chain.rlp" "genesis.json" = .ok (fx.toChain lib) ∧
      inserted = fx.blocks := by
  unfold runGeth at started
  split at started
  · cases started
  split at started
  · cases started
  rename_i chain loaded
  split at started
  · cases started
  split at started
  · cases started
  split at started
  · cases started
  obtain ⟨fx, rfl, -⟩ := loadChain_fixture loaded
  exact ⟨fx, loaded, (Except.ok.inj started).symm⟩

theorem checkFlagWith_ok {headError : GoError → GoError} {lib : Library} {fs : FileSystem} {node : Node}
    {consoleMode : Bool} (captured : checkFlagWith headError lib fs node consoleMode = .ok ()) :
    ∃ inserted, runGeth lib fs node = .ok inserted ∧
      (node.attach ≠ none ∨ ∃ block, node.blockByNumber inserted 1 = .ok block ∧ block.hash = flagHash) := by
  unfold checkFlagWith at captured
  split at captured
  · cases captured
  rename_i inserted started
  refine ⟨inserted, started, ?_⟩
  split at captured
  · cases captured
  split at captured
  · exact .inl (by simp_all)
  split at captured
  · cases captured
  rename_i block answered
  split at captured
  · cases captured
  · rename_i same
    exact .inr ⟨block, answered, not_not.mp same⟩

def unattachableNode : Node where
  new := none
  ethNew _ _ := none
  start := none
  consoleAttach := none
  consoleNew := none
  attach := some ⟨"dial unix geth.ipc: connect: no such file or directory"⟩
  blockByNumber _ _ := .error ⟨"not found"⟩

theorem flagExit_success {result : Except Failure Unit} {out : String}
    (captured : flagExit result = .success out) : result = .ok () := by
  rcases result with (_ | _) | _ <;> simp_all [flagExit]

def flagNode : Node where
  new := none
  ethNew _ _ := none
  start := none
  consoleAttach := none
  consoleNew := none
  attach := none
  blockByNumber _ _ := .ok ⟨1, flagHash⟩

/-- Both in-process verifiers print `Flag captured.` only when attaching failed or the node's block 1,
    after importing a well-numbered fixture, has the flag's hash. -/
theorem inProcess_capture_requires_flag_or_failed_attach (headError : GoError → GoError) (lib : Library)
    (fs : FileSystem) (node : Node) (consoleMode : Bool) (out : String)
    (captured : flagExit (checkFlagWith headError lib fs node consoleMode) = .success out) :
    ∃ fx : Fixture, loadChain lib fs "chain.rlp" "genesis.json" = .ok (fx.toChain lib) ∧
      (node.attach ≠ none ∨ ∃ block, node.blockByNumber fx.blocks 1 = .ok block ∧ block.hash = flagHash) := by
  obtain ⟨inserted, started, verdict⟩ := checkFlagWith_ok (flagExit_success captured)
  obtain ⟨fx, loaded, rfl⟩ := runGeth_ok started
  exact ⟨fx, loaded, verdict⟩

theorem flagNode_captured :
    flagExit (checkFlagWith id sampleLibrary sampleFiles flagNode false) = .success "Flag captured." ∧
      ∃ fx : Fixture, loadChain sampleLibrary sampleFiles "chain.rlp" "genesis.json" = .ok (fx.toChain sampleLibrary) ∧
        (flagNode.attach ≠ none ∨ ∃ block, flagNode.blockByNumber fx.blocks 1 = .ok block ∧ block.hash = flagHash) :=
  ⟨rfl, inProcess_capture_requires_flag_or_failed_attach id sampleLibrary sampleFiles flagNode false _ rfl⟩

namespace DevVerifier

def checkFlag (lib : Library) (fs : FileSystem) (node : Node) (devMode : Bool) : Except Failure Unit :=
  checkFlagWith id lib fs node devMode

def main (lib : Library) (fs : FileSystem) (node : Node) (devMode : Bool) : Exit :=
  flagExit (checkFlag lib fs node devMode)

end DevVerifier

namespace ConsoleVerifier

def checkFlag (lib : Library) (fs : FileSystem) (node : Node) (consoleMode : Bool) :
    Except Failure Unit :=
  checkFlagWith (fun _ => ⟨"couldn't load head block"⟩) lib fs node consoleMode

def main (lvlFromString : Option GoError) (lib : Library) (fs : FileSystem) (node : Node)
    (consoleMode : Bool) : Exit :=
  match lvlFromString with
  | some err => .failure err.msg
  | none => flagExit (checkFlag lib fs node consoleMode)

end ConsoleVerifier

-- The two forms differ on a failed query for block 1: the first prints the node's error, the
-- second a text of its own.
example :
    DevVerifier.main sampleLibrary sampleFiles { unattachableNode with attach := none } false =
        .failure "Flag not captured: not found" ∧
      ConsoleVerifier.main none sampleLibrary sampleFiles { unattachableNode with attach := none } false =
        .failure "Flag not captured: couldn't load head block" :=
  ⟨rfl, rfl⟩

theorem verifiers_capture_flag_without_block :
    DevVerifier.main sampleLibrary sampleFiles unattachableNode false = .success "Flag captured." ∧
    ConsoleVerifier.main none sampleLibrary sampleFiles unattachableNode false = .success "Flag captured." ∧
    ∀ inserted, unattachableNode.blockByNumber inserted 1 = .error ⟨"not found"⟩ :=
  ⟨rfl, rfl, fun _ => rfl⟩

end ProtocolCtf
