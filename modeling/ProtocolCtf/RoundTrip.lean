import ProtocolCtf.Loader
import ProtocolCtf.Writer

/- The generator against the loader. `main` writes the genesis block first, with the number
   `ToBlock` gives it, while `blocksFromFile` expects number 1 at position 0: the file `main` writes
   is rejected whatever blocks follow the genesis, and what round-trips is the list of generated
   blocks alone. The decoding law is assumed for the lists at hand (`DecodesBack`);
   `unaryLibrary` is a codec that satisfies it for every list. -/

set_option autoImplicit false

namespace ProtocolCtf

def DecodesBack (lib : Library) (blocks : List Block) : Prop :=
  lib.newStream ⟨lib.chainEncoding blocks, none⟩ = blocks.map .block

theorem blocksFromFile_written (lib : Library) (io : FileBehaviour) (opened : io.openFile = none)
    (written : ∀ k, io.write k = .written) (chain : List Block) (filename : String)
    (plain : hasSuffix filename ".gz" = false) (decodes : DecodesBack lib chain) (fs : FileSystem)
    (g : Block) :
    blocksFromFile lib (Chainmaker.writeChain lib io chain filename fs).2 filename g =
      decodeBlocks 0 [g] (chain.map .block) := by
  rw [Chainmaker.writeChain_written lib io opened written]
  simp only [blocksFromFile, chainReader, FileSystem.openFile_write, plain]
  rw [← decodes]
  rfl

theorem numbered_of_exact (bs : List Block) (exact : ∀ i (h : i < bs.length), bs[i].number = i + 1) :
    Numbered 0 bs :=
  (numbered_zero_iff bs).2 fun i h => by simp [Block.numberU64, exact i h]

theorem decodeBlocks_genesis_first (g : Block) (bs : List Block) (nonempty : bs ≠ [])
    (exact : ∀ i (h : i < bs.length), bs[i].number = i + 1) :
    decodeBlocks 0 [g] ((g :: bs).map .block) =
      .error (if g.numberU64 = uint64 1 then wrongNumber 1 (uint64 1) else wrongNumber 0 g.numberU64) := by
  obtain ⟨b, rest, rfl⟩ := List.exists_cons_of_ne_nil nonempty
  have first : b.number = 1 := exact 0 (by simp)
  by_cases one : g.numberU64 = uint64 1
  · have read : b.numberU64 = uint64 1 := by simp [Block.numberU64, first]
    have second : uint64 1 ≠ uint64 (1 + 1) := by decide
    simp [decodeBlocks, one, read, second]
  · simp [decodeBlocks, one]

/-- `main`'s file is rejected by `blocksFromFile`; `writeChain` and `blocksFromFile` agree on the
    generated blocks alone. -/
theorem chainmaker_output_rejected_by_loader (lib : Library) (genesisIo chainIo : FileBehaviour)
    (bs : List Block) (nonempty : bs ≠ []) (exact : ∀ i (h : i < bs.length), bs[i].number = i + 1)
    (chainFilename genesisFilename : String) (plain : hasSuffix chainFilename ".gz" = false)
    (opened : chainIo.openFile = none) (written : ∀ k, chainIo.write k = .written)
    (decodesMain : DecodesBack lib (lib.toBlock Chainmaker.gspec :: bs))
    (decodesGenerated : DecodesBack lib bs) (fs : FileSystem) :
    (∀ out fs', Chainmaker.main lib genesisIo chainIo bs chainFilename genesisFilename fs = (.success out, fs') →
      blocksFromFile lib fs' chainFilename (lib.toBlock Chainmaker.gspec) =
        .error (if (lib.toBlock Chainmaker.gspec).numberU64 = uint64 1 then wrongNumber 1 (uint64 1)
          else wrongNumber 0 (lib.toBlock Chainmaker.gspec).numberU64)) ∧
    blocksFromFile lib (Chainmaker.writeChain lib chainIo bs chainFilename fs).2 chainFilename
      (lib.toBlock Chainmaker.gspec) = .ok (lib.toBlock Chainmaker.gspec :: bs) := by
  refine ⟨fun out fs' succeeded => ?_, ?_⟩
  · obtain ⟨before, chained⟩ := Chainmaker.main_success succeeded
    have file := blocksFromFile_written lib chainIo opened written _ chainFilename plain decodesMain before
      (lib.toBlock Chainmaker.gspec)
    rw [chained] at file
    rw [file, decodeBlocks_genesis_first _ bs nonempty exact]
  · rw [blocksFromFile_written lib chainIo opened written bs chainFilename plain decodesGenerated]
    simpa using @decodeBlocks_of_endsAfter 0 [lib.toBlock Chainmaker.gspec] bs _ (.inl rfl)
      (numbered_of_exact bs exact)

def unary (n : Nat) : Bytes := List.replicate n 1 ++ [0]

def readUnary : Bytes → Option (Nat × Bytes)
  | [] => none
  | byte :: rest =>
      if byte = 0 then some (0, rest)
      else if byte = 1 then (readUnary rest).map fun read => (read.1 + 1, read.2)
      else none

theorem readUnary_unary (n : Nat) (rest : Bytes) : readUnary (unary n ++ rest) = some (n, rest) := by
  induction n with
  | zero => rfl
  | succ n ih => simpa [unary, List.replicate_succ, readUnary] using ih

def readBlock (bytes : Bytes) : Option (Block × Bytes) :=
  match readUnary bytes with
  | none => none
  | some (number, rest) =>
      match readUnary rest with
      | none => none
      | some (hash, rest) => some (⟨number, BitVec.ofNat 256 hash⟩, rest)

def unaryStream : Nat → Bytes → List DecodeResult
  | _, [] => []
  | 0, _ :: _ => [.err ⟨"rlp: input too long"⟩]
  | fuel + 1, byte :: rest =>
      match readBlock (byte :: rest) with
      | none => [.err ⟨"rlp: invalid encoding"⟩]
      | some (b, rest) => .block b :: unaryStream fuel rest

def unaryLibrary : Library where
  encodeRLP b := [unary b.number ++ unary b.hash.toNat]
  newStream r := unaryStream r.bytes.length r.bytes
  gzipNewReader r := .ok r
  unmarshalGenesis _ := .ok Chainmaker.gspec
  marshalGenesis _ := .ok []
  toBlock _ := ⟨0, 0⟩

theorem unaryLibrary_encoding (b : Block) :
    unaryLibrary.encoding b = unary b.number ++ unary b.hash.toNat := by
  simp [Library.encoding, unaryLibrary]

theorem readBlock_encoding (b : Block) (rest : Bytes) :
    readBlock (unaryLibrary.encoding b ++ rest) = some (b, rest) := by
  simp [readBlock, unaryLibrary_encoding, List.append_assoc, readUnary_unary]

theorem length_le_chainEncoding (bs : List Block) :
    bs.length ≤ (unaryLibrary.chainEncoding bs).length := by
  induction bs with
  | nil => simp
  | cons b bs ih =>
      simp only [Library.chainEncoding_cons, List.length_append, unaryLibrary_encoding, unary,
        List.length_replicate, List.length_singleton, List.length_cons]
      omega

theorem unaryStream_chainEncoding (fuel : Nat) (bs : List Block) (enough : bs.length ≤ fuel) :
    unaryStream fuel (unaryLibrary.chainEncoding bs) = bs.map .block := by
  induction bs generalizing fuel with
  | nil => cases fuel <;> rfl
  | cons b bs ih =>
      obtain ⟨fuel, rfl⟩ : ∃ f, fuel = f + 1 := ⟨fuel - 1, by simp at enough; omega⟩
      obtain ⟨x, xs, cons⟩ : ∃ x xs, unaryLibrary.encoding b ++ unaryLibrary.chainEncoding bs = x :: xs :=
        List.exists_cons_of_ne_nil (by simp [unaryLibrary_encoding, unary])
      rw [Library.chainEncoding_cons, cons, unaryStream, ← cons, readBlock_encoding]
      simp [ih fuel (by simp at enough; omega)]

theorem unaryLibrary_decodesBack (bs : List Block) : DecodesBack unaryLibrary bs :=
  unaryStream_chainEncoding _ bs (length_le_chainEncoding bs)

theorem unary_generated_round_trip :
    blocksFromFile unaryLibrary (Chainmaker.writeChain unaryLibrary Chainmaker.healthyDisk [⟨1, 0⟩] "chain.rlp"
      sampleFiles).2 "chain.rlp" ⟨0, 0⟩ = .ok [⟨0, 0⟩, ⟨1, 0⟩] :=
  (chainmaker_output_rejected_by_loader unaryLibrary Chainmaker.healthyDisk Chainmaker.healthyDisk [⟨1, 0⟩] (by simp)
    (by decide) "chain.rlp" "genesis.json" (by decide) rfl (fun _ => rfl) (unaryLibrary_decodesBack _)
    (unaryLibrary_decodesBack _) sampleFiles).2

theorem chainmaker_file_fails_to_load :
    (∀ bs, DecodesBack unaryLibrary bs) ∧
    (Chainmaker.main unaryLibrary Chainmaker.healthyDisk Chainmaker.healthyDisk [⟨1, 0⟩] "chain.rlp" "genesis.json"
      sampleFiles).1 = .success "wrote 2 blocks to disk" ∧
    blocksFromFile unaryLibrary (Chainmaker.main unaryLibrary Chainmaker.healthyDisk Chainmaker.healthyDisk [⟨1, 0⟩] "chain.rlp"
      "genesis.json" sampleFiles).2 "chain.rlp" (unaryLibrary.toBlock Chainmaker.gspec) =
      .error (wrongNumber 0 0) :=
  ⟨unaryLibrary_decodesBack, rfl, rfl⟩

end ProtocolCtf
