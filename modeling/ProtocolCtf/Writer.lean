import ProtocolCtf.Basic

/- `cmd/chainmaker`, the fixture generator. The operating system's answers to the calls made on an
   output file are a `FileBehaviour`: opening, any single write and closing may fail. `writeChain`
   hands every block to `Block.EncodeRLP` and drops the error it returns, so its result is the
   result of opening the file alone; `writeGenesis` returns the error of its one write. Both drop
   the error of the deferred `Close`, and an `*os.File` keeps no buffer, so the file holds what the
   writes left. -/

set_option autoImplicit false

namespace ProtocolCtf

inductive WriteOutcome where
  | written
  | failed (n : Nat) (e : GoError)
deriving DecidableEq, Repr

-- `write k` answers the `k`-th `Write` call on the file; a failed call has written its first `n`
-- bytes.
structure FileBehaviour where
  openFile : Option GoError
  write : Nat → WriteOutcome
  close : Option GoError

structure Writer where
  calls : Nat
  data : Bytes
deriving DecidableEq, Repr

def Writer.write (io : FileBehaviour) (w : Writer) (p : Bytes) : Option GoError × Writer :=
  match io.write w.calls with
  | .written => (none, ⟨w.calls + 1, w.data ++ p⟩)
  | .failed n e => (some e, ⟨w.calls + 1, w.data ++ p.take n⟩)

def encodeRLP (io : FileBehaviour) (w : Writer) : List Bytes → Option GoError × Writer
  | [] => (none, w)
  | p :: ps =>
      match w.write io p with
      | (some e, w') => (some e, w')
      | (none, w') => encodeRLP io w' ps

namespace Chainmaker

def writeBlocks (lib : Library) (io : FileBehaviour) (w : Writer) (chain : List Block) : Writer :=
  chain.foldl (fun w b => (encodeRLP io w (lib.encodeRLP b)).2) w

def writeChain (lib : Library) (io : FileBehaviour) (chain : List Block) (filename : String)
    (fs : FileSystem) : Option GoError × FileSystem :=
  match io.openFile with
  | some err => (some err, fs)
  | none => (none, fs.write filename (writeBlocks lib io ⟨0, []⟩ chain).data)

def writeGenesis (lib : Library) (io : FileBehaviour) (gspec : Genesis) (filename : String)
    (fs : FileSystem) : Option GoError × FileSystem :=
  match io.openFile with
  | some err => (some err, fs)
  | none =>
      match lib.marshalGenesis gspec with
      | .error err => (some err, fs.write filename [])
      | .ok raw =>
          let written := Writer.write io ⟨0, []⟩ raw
          (written.1, fs.write filename written.2.data)

def gspec : Genesis := ⟨some ⟨some 1⟩⟩

-- Unlike `writeChain`, `writeGenesis` returns the error of its write.
example : writeGenesis sampleLibrary ⟨none, fun _ => .failed 0 ⟨"no space left on device"⟩, none⟩ gspec "genesis.json"
    sampleFiles = (some ⟨"no space left on device"⟩, sampleFiles.write "genesis.json" []) := rfl

def exit (msg : GoError) : Exit := .failure msg.msg

-- `generated` is what `core.GenerateChain` returns; the genesis block is `gspec.MustCommit`, which
-- is `ToBlock` and a commit to an in-memory database.
def main (lib : Library) (genesisIo chainIo : FileBehaviour) (generated : List Block)
    (chainFilename genesisFilename : String) (fs : FileSystem) : Exit × FileSystem :=
  let blocks := lib.toBlock gspec :: generated
  match writeGenesis lib genesisIo gspec genesisFilename fs with
  | (some err, fs) => (exit ⟨"unable to write genesis file: " ++ err.msg⟩, fs)
  | (none, fs) =>
      match writeChain lib chainIo blocks chainFilename fs with
      | (some err, fs) => (exit ⟨"unable to write chain to disk: " ++ err.msg⟩, fs)
      | (none, fs) => (.success ("wrote " ++ toString blocks.length ++ " blocks to disk"), fs)

theorem encodeRLP_written_from (io : FileBehaviour) (w : Writer)
    (written : ∀ k, w.calls ≤ k → io.write k = .written) (ps : List Bytes) :
    encodeRLP io w ps = (none, ⟨w.calls + ps.length, w.data ++ ps.flatten⟩) := by
  induction ps generalizing w with
  | nil => simp [encodeRLP]
  | cons p ps ih =>
      simp only [encodeRLP, Writer.write, written w.calls (le_refl _)]
      rw [ih _ fun k later => written k (by simp at later; omega)]
      simp [Nat.add_assoc, Nat.add_comm 1]

theorem encodeRLP_cases (io : FileBehaviour) (w : Writer) (ps : List Bytes) :
    encodeRLP io w ps = (none, ⟨w.calls + ps.length, w.data ++ ps.flatten⟩) ∨
      ∃ k m, w.calls ≤ k ∧ k < (encodeRLP io w ps).2.calls ∧ io.write k ≠ .written ∧
        (encodeRLP io w ps).2.data = w.data ++ ps.flatten.take m := by
  induction ps generalizing w with
  | nil => exact .inl (by simp [encodeRLP])
  | cons p ps ih =>
      rcases answer : io.write w.calls with _ | ⟨n, e⟩
      · have step : encodeRLP io w (p :: ps) = encodeRLP io ⟨w.calls + 1, w.data ++ p⟩ ps := by
          simp [encodeRLP, Writer.write, answer]
        rw [step]
        rcases ih ⟨w.calls + 1, w.data ++ p⟩ with done | ⟨k, m, later, made, failed, data⟩
        · exact .inl (by rw [done]; simp [Nat.add_assoc, Nat.add_comm 1])
        · exact .inr ⟨k, p.length + m, by simp at later; omega, made, failed, by simp [data, List.take_append]⟩
      · have step : encodeRLP io w (p :: ps) = (some e, ⟨w.calls + 1, w.data ++ p.take n⟩) := by
          simp [encodeRLP, Writer.write, answer]
        refine .inr ⟨w.calls, min n p.length, le_refl _, by simp [step], by simp [answer], ?_⟩
        simp [step, List.take_append_of_le_length (min_le_right n p.length)]

theorem writeBlocks_cons (lib : Library) (io : FileBehaviour) (w : Writer) (b : Block) (chain : List Block) :
    writeBlocks lib io w (b :: chain) = writeBlocks lib io (encodeRLP io w (lib.encodeRLP b)).2 chain := rfl

theorem writeBlocks_written_from (lib : Library) (io : FileBehaviour) (w : Writer)
    (written : ∀ k, w.calls ≤ k → io.write k = .written) (chain : List Block) :
    (writeBlocks lib io w chain).data = w.data ++ lib.chainEncoding chain := by
  induction chain generalizing w with
  | nil => simp [writeBlocks]
  | cons b chain ih =>
      rw [writeBlocks_cons, encodeRLP_written_from io w written, ih _ fun k later => written k (by simp at later; omega)]
      simp [Library.encoding]

theorem writeBlocks_written (lib : Library) (io : FileBehaviour) (written : ∀ k, io.write k = .written)
    (w : Writer) (chain : List Block) :
    (writeBlocks lib io w chain).data = w.data ++ lib.chainEncoding chain :=
  writeBlocks_written_from lib io w (fun k _ => written k) chain

theorem writeBlocks_one_failure (lib : Library) (io : FileBehaviour)
    (single : ∀ j k, io.write j ≠ .written → io.write k ≠ .written → j = k) (w : Writer) (chain : List Block) :
    (writeBlocks lib io w chain).data = w.data ++ lib.chainEncoding chain ∨
      ∃ before b after n, chain = before ++ b :: after ∧ (writeBlocks lib io w chain).data =
        w.data ++ lib.chainEncoding before ++ (lib.encoding b).take n ++ lib.chainEncoding after := by
  induction chain generalizing w with
  | nil => exact .inl (by simp [writeBlocks])
  | cons b chain ih =>
      rw [writeBlocks_cons]
      rcases encodeRLP_cases io w (lib.encodeRLP b) with whole | ⟨k, m, -, made, failed, cut⟩
      · rw [whole]
        rcases ih ⟨w.calls + (lib.encodeRLP b).length, w.data ++ (lib.encodeRLP b).flatten⟩ with
          rest | ⟨before, b', after, n, rfl, rest⟩
        · exact .inl (by simp [rest, Library.encoding])
        · exact .inr ⟨b :: before, b', after, n, rfl, by simp [rest, Library.encoding]⟩
      · have later : ∀ j, (encodeRLP io w (lib.encodeRLP b)).2.calls ≤ j → io.write j = .written :=
          fun j after => by_contra fun broken => absurd (single j k broken failed) (by omega)
        exact .inr ⟨[], b, chain, m, rfl, by simp [writeBlocks_written_from lib io _ later, cut, Library.encoding]⟩

theorem writeChain_written (lib : Library) (io : FileBehaviour) (opened : io.openFile = none)
    (written : ∀ k, io.write k = .written) (chain : List Block) (filename : String) (fs : FileSystem) :
    writeChain lib io chain filename fs = (none, fs.write filename (lib.chainEncoding chain)) := by
  simp [writeChain, opened, writeBlocks_written lib io written]

theorem main_success {lib : Library} {genesisIo chainIo : FileBehaviour} {generated : List Block}
    {chainFilename genesisFilename : String} {fs fs' : FileSystem} {out : String}
    (succeeded : main lib genesisIo chainIo generated chainFilename genesisFilename fs = (.success out, fs')) :
    ∃ before, writeChain lib chainIo (lib.toBlock gspec :: generated) chainFilename before = (none, fs') := by
  unfold main at succeeded
  split at succeeded
  · simp [exit] at succeeded
  · dsimp only at succeeded
    split at succeeded
    · simp [exit] at succeeded
    · rename_i before _ _ _ chained
      exact ⟨before, by rw [chained, (Prod.mk.inj succeeded).2]⟩

def healthyDisk : FileBehaviour := ⟨none, fun _ => .written, none⟩

/-- `writeChain` reports a failure to open the file and then leaves the files as they were; when
    opening and every write succeed it returns nil and the file holds the blocks' encodings, whatever
    the close answers. -/
theorem writeChain_reports_open_and_complete_writes (lib : Library) (io : FileBehaviour)
    (chain : List Block) (filename : String) (fs : FileSystem) :
    (∀ e, io.openFile = some e → writeChain lib io chain filename fs = (some e, fs)) ∧
    (io.openFile = none → (∀ k, io.write k = .written) →
      writeChain lib io chain filename fs = (none, fs.write filename (lib.chainEncoding chain))) :=
  ⟨fun e failed => by simp [writeChain, failed],
    fun opened written => writeChain_written lib io opened written chain filename fs⟩

/-- A single failed write, however many of its bytes reached the disk, costs the rest of its own
    block and nothing else: `writeChain` returns nil, and the file is the chain's encoding with at
    most one block cut short. -/
theorem writeChain_one_failed_write (lib : Library) (io : FileBehaviour) (opened : io.openFile = none)
    (single : ∀ j k, io.write j ≠ .written → io.write k ≠ .written → j = k) (chain : List Block)
    (filename : String) (fs : FileSystem) :
    writeChain lib io chain filename fs = (none, fs.write filename (lib.chainEncoding chain)) ∨
      ∃ before b after n, chain = before ++ b :: after ∧ writeChain lib io chain filename fs =
        (none, fs.write filename (lib.chainEncoding before ++ (lib.encoding b).take n ++ lib.chainEncoding after)) := by
  simp only [writeChain, opened]
  rcases writeBlocks_one_failure lib io single ⟨0, []⟩ chain with whole | ⟨before, b, after, n, split, cut⟩
  · exact .inl (by rw [whole]; rfl)
  · exact .inr ⟨before, b, after, n, split, by rw [cut]; rfl⟩

def interruptedDisk : FileBehaviour :=
  ⟨none, fun k => if k = 0 then .failed 0 ⟨"write chain.rlp: interrupted system call"⟩ else .written, none⟩

theorem interrupted_write_drops_first_block :
    interruptedDisk.openFile = none ∧
      (∀ j k, interruptedDisk.write j ≠ .written → interruptedDisk.write k ≠ .written → j = k) ∧
      (writeChain sampleLibrary interruptedDisk [⟨1, 0⟩, ⟨2, 0⟩] "chain.rlp" sampleFiles =
          (none, sampleFiles.write "chain.rlp" (sampleLibrary.chainEncoding [⟨1, 0⟩, ⟨2, 0⟩])) ∨
        ∃ before b after n, [⟨1, 0⟩, ⟨2, 0⟩] = before ++ b :: after ∧
          writeChain sampleLibrary interruptedDisk [⟨1, 0⟩, ⟨2, 0⟩] "chain.rlp" sampleFiles =
            (none, sampleFiles.write "chain.rlp" (sampleLibrary.chainEncoding before ++ (sampleLibrary.encoding b).take n ++
              sampleLibrary.chainEncoding after))) :=
  have single : ∀ j k, interruptedDisk.write j ≠ .written → interruptedDisk.write k ≠ .written → j = k := by
    intro j k broken broken'
    simp_all [interruptedDisk]
  ⟨rfl, single, writeChain_one_failed_write sampleLibrary interruptedDisk rfl single _ "chain.rlp" sampleFiles⟩

theorem writeChain_healthy_sample :
    writeChain sampleLibrary healthyDisk [⟨1, 0⟩] "chain.rlp" sampleFiles =
      (none, sampleFiles.write "chain.rlp" [1]) :=
  (writeChain_reports_open_and_complete_writes sampleLibrary healthyDisk [⟨1, 0⟩] "chain.rlp"
    sampleFiles).2 rfl (fun _ => rfl)

theorem writeChain_drops_close_error :
    writeChain sampleLibrary ⟨none, fun _ => .written, some ⟨"close chain.rlp: input/output error"⟩⟩
      [⟨1, 0⟩] "chain.rlp" sampleFiles = (none, sampleFiles.write "chain.rlp" [1]) :=
  rfl

end Chainmaker

end ProtocolCtf
