import ProtocolCtf.Basic

/- The chain fixture loader, `loadChain`, `loadGenesis` and `blocksFromFile`, which both in-process
   verifiers carry word for word. `decodeBlocks` is the loop of `blocksFromFile`: it compares the
   low 64 bits of each block's number with its position plus one, so the numbers it accepts at
   position `i` are those equal to `i + 1` modulo 2^64. The genesis block it is given is never
   checked. -/

set_option autoImplicit false

namespace ProtocolCtf

def atBlockIndex (i : Nat) (err : GoError) : GoError :=
  ⟨"at block index " ++ toString i ++ ": " ++ err.msg⟩

def wrongNumber (i number : Nat) : GoError :=
  ⟨"block at index " ++ toString i ++ " has wrong number " ++ toString number⟩

def decodeBlocks (i : Nat) (blocks : List Block) : List DecodeResult → Except GoError (List Block)
  | [] => .ok blocks
  | .eof :: _ => .ok blocks
  | .err e :: _ => .error (atBlockIndex i e)
  | .block b :: rest =>
      if b.numberU64 ≠ uint64 (i + 1) then .error (wrongNumber i b.numberU64)
      else decodeBlocks (i + 1) (blocks ++ [b]) rest

def chainReader (lib : Library) (fs : FileSystem) (chainfile : String) : Except GoError Reader :=
  match fs.openFile chainfile with
  | .error e => .error e
  | .ok fh => if hasSuffix chainfile ".gz" then lib.gzipNewReader fh else .ok fh

def blocksFromFile (lib : Library) (fs : FileSystem) (chainfile : String) (gblock : Block) :
    Except GoError (List Block) :=
  match chainReader lib fs chainfile with
  | .error e => .error e
  | .ok reader => decodeBlocks 0 [gblock] (lib.newStream reader)

structure Chain where
  genesis : Genesis
  blocks : List Block
  chainConfig : Option ChainConfig

def loadGenesis (lib : Library) (fs : FileSystem) (genesisFile : String) : Except GoError Genesis :=
  match fs.readFile genesisFile with
  | .error e => .error e
  | .ok chainConfig => lib.unmarshalGenesis chainConfig

def loadChain (lib : Library) (fs : FileSystem) (chainfile genesis : String) : Except GoError Chain :=
  match loadGenesis lib fs genesis with
  | .error e => .error e
  | .ok gen =>
      match blocksFromFile lib fs chainfile (lib.toBlock gen) with
      | .error e => .error e
      | .ok blocks => .ok ⟨gen, blocks, gen.config⟩

def Numbered (i : Nat) : List Block → Prop
  | [] => True
  | b :: bs => b.numberU64 = uint64 (i + 1) ∧ Numbered (i + 1) bs

theorem numbered_iff (i : Nat) (bs : List Block) :
    Numbered i bs ↔ ∀ k (h : k < bs.length), bs[k].numberU64 = uint64 (i + k + 1) := by
  induction bs generalizing i with
  | nil => simp [Numbered]
  | cons b bs ih =>
      have shift : ∀ k, i + 1 + k + 1 = i + (k + 1) + 1 := by omega
      simp only [Numbered, ih, List.length_cons, shift]
      constructor
      · rintro ⟨head, tail⟩ (_ | k) h
        · simpa using head
        · simpa using tail k (by omega)
      · intro all
        exact ⟨by simpa using all 0 (by omega), fun k h => by simpa using all (k + 1) (by omega)⟩

def EndsAfter (bs : List Block) (s : List DecodeResult) : Prop :=
  s = bs.map .block ∨ ∃ rest, s = bs.map .block ++ .eof :: rest

def rejection (i : Nat) : DecodeResult → Option GoError
  | .block b => if b.numberU64 ≠ uint64 (i + 1) then some (wrongNumber i b.numberU64) else none
  | .eof => none
  | .err e => some (atBlockIndex i e)

theorem decodeBlocks_numbered (i : Nat) (acc bs : List Block) (rest : List DecodeResult)
    (numbered : Numbered i bs) :
    decodeBlocks i acc (bs.map .block ++ rest) = decodeBlocks (i + bs.length) (acc ++ bs) rest := by
  induction bs generalizing i acc with
  | nil => simp
  | cons b bs ih =>
      rw [List.map_cons, List.cons_append, decodeBlocks, if_neg (not_not.mpr numbered.1),
        ih (i + 1) (acc ++ [b]) numbered.2, List.append_assoc, List.singleton_append, List.length_cons]
      congr 1
      omega

theorem decodeBlocks_of_endsAfter {i : Nat} {acc bs : List Block} {s : List DecodeResult}
    (ends : EndsAfter bs s) (numbered : Numbered i bs) : decodeBlocks i acc s = .ok (acc ++ bs) := by
  rcases ends with rfl | ⟨rest, rfl⟩
  · simpa [decodeBlocks] using decodeBlocks_numbered i acc bs [] numbered
  · rw [decodeBlocks_numbered i acc bs _ numbered, decodeBlocks]

theorem decodeBlocks_of_rejection {i : Nat} {acc bs : List Block} {x : DecodeResult}
    {rest : List DecodeResult} {e : GoError} (numbered : Numbered i bs)
    (rejected : rejection (i + bs.length) x = some e) :
    decodeBlocks i acc (bs.map .block ++ x :: rest) = .error e := by
  rw [decodeBlocks_numbered i acc bs _ numbered]
  cases x with
  | block b =>
      simp only [rejection] at rejected
      split at rejected <;> simp_all [decodeBlocks]
  | eof => simp [rejection] at rejected
  | err cause => simp_all [rejection, decodeBlocks]

theorem stream_cases (i : Nat) (s : List DecodeResult) :
    (∃ bs, EndsAfter bs s ∧ Numbered i bs) ∨
      ∃ bs x rest e, s = bs.map .block ++ x :: rest ∧ Numbered i bs ∧
        rejection (i + bs.length) x = some e := by
  induction s generalizing i with
  | nil => exact .inl ⟨[], .inl rfl, trivial⟩
  | cons x rest ih =>
      cases x with
      | eof => exact .inl ⟨[], .inr ⟨rest, rfl⟩, trivial⟩
      | err cause => exact .inr ⟨[], .err cause, rest, _, rfl, trivial, rfl⟩
      | block b =>
          by_cases good : b.numberU64 = uint64 (i + 1)
          · rcases ih (i + 1) with ⟨bs, ends, numbered⟩ | ⟨bs, y, tail, e, rfl, numbered, rejected⟩
            · refine .inl ⟨b :: bs, ?_, good, numbered⟩
              rcases ends with rfl | ⟨tail, rfl⟩
              · exact .inl rfl
              · exact .inr ⟨tail, rfl⟩
            · refine .inr ⟨b :: bs, y, tail, e, rfl, ⟨good, numbered⟩, ?_⟩
              simpa [Nat.add_assoc, Nat.add_comm 1] using rejected
          · exact .inr ⟨[], .block b, rest, wrongNumber i b.numberU64, rfl, trivial, by simp [rejection, good]⟩

theorem decodeBlocks_ok_iff (i : Nat) (acc : List Block) (s : List DecodeResult) (chain : List Block) :
    decodeBlocks i acc s = .ok chain ↔ ∃ bs, EndsAfter bs s ∧ Numbered i bs ∧ chain = acc ++ bs := by
  constructor
  · intro accepted
    rcases stream_cases i s with ⟨bs, ends, numbered⟩ | ⟨bs, x, rest, e, rfl, numbered, rejected⟩
    · rw [decodeBlocks_of_endsAfter ends numbered, Except.ok.injEq] at accepted
      exact ⟨bs, ends, numbered, accepted.symm⟩
    · rw [decodeBlocks_of_rejection numbered rejected] at accepted
      cases accepted
  · rintro ⟨bs, ends, numbered, rfl⟩
    exact decodeBlocks_of_endsAfter ends numbered

theorem decodeBlocks_error_iff (i : Nat) (acc : List Block) (s : List DecodeResult) (e : GoError) :
    decodeBlocks i acc s = .error e ↔
      ∃ bs x rest, s = bs.map .block ++ x :: rest ∧ Numbered i bs ∧
        rejection (i + bs.length) x = some e := by
  constructor
  · intro rejectedAll
    rcases stream_cases i s with ⟨bs, ends, numbered⟩ | ⟨bs, x, rest, e', rfl, numbered, rejected⟩
    · rw [decodeBlocks_of_endsAfter ends numbered] at rejectedAll
      cases rejectedAll
    · rw [decodeBlocks_of_rejection numbered rejected, Except.error.injEq] at rejectedAll
      exact ⟨bs, x, rest, rfl, numbered, rejectedAll ▸ rejected⟩
  · rintro ⟨bs, x, rest, rfl, numbered, rejected⟩
    exact decodeBlocks_of_rejection numbered rejected

theorem blocksFromFile_of_reader {lib : Library} {fs : FileSystem} {chainfile : String} {r : Reader}
    (opened : chainReader lib fs chainfile = .ok r) (g : Block) :
    blocksFromFile lib fs chainfile g = decodeBlocks 0 [g] (lib.newStream r) := by
  simp [blocksFromFile, opened]

theorem numbered_zero_iff (bs : List Block) :
    Numbered 0 bs ↔ ∀ i (h : i < bs.length), bs[i].numberU64 = uint64 (i + 1) := by
  simp [numbered_iff]

structure Fixture where
  genesis : Genesis
  blocks : List Block
  numbered : Numbered 0 blocks

def Fixture.toChain (fx : Fixture) (lib : Library) : Chain :=
  ⟨fx.genesis, lib.toBlock fx.genesis :: fx.blocks, fx.genesis.config⟩

theorem loadChain_fixture {lib : Library} {fs : FileSystem} {chainfile genesis : String} {chain : Chain}
    (loaded : loadChain lib fs chainfile genesis = .ok chain) :
    ∃ fx : Fixture, chain = fx.toChain lib ∧ loadGenesis lib fs genesis = .ok fx.genesis ∧
      ∃ r, chainReader lib fs chainfile = .ok r ∧ EndsAfter fx.blocks (lib.newStream r) := by
  unfold loadChain at loaded
  split at loaded
  · cases loaded
  · rename_i gen readGenesis
    split at loaded
    · cases loaded
    · rename_i blocks decoded
      cases loaded
      unfold blocksFromFile at decoded
      split at decoded
      · cases decoded
      · rename_i r opened
        obtain ⟨bs, ends, numbered, rfl⟩ := (decodeBlocks_ok_iff 0 _ _ _).1 decoded
        exact ⟨⟨gen, bs, numbered⟩, rfl, readGenesis, r, opened, ends⟩

/-- `blocksFromFile` returns a chain exactly for the streams of blocks numbered 1, 2, ... up to their
    end, a number counting by its low 64 bits; otherwise its error names the first position that
    breaks this. -/
theorem blocksFromFile_accepts_numbered_streams (lib : Library) (fs : FileSystem) (chainfile : String)
    (g : Block) (r : Reader) (opened : chainReader lib fs chainfile = .ok r) :
    (∀ chain, blocksFromFile lib fs chainfile g = .ok chain ↔
      ∃ bs, EndsAfter bs (lib.newStream r) ∧
        (∀ i (h : i < bs.length), bs[i].numberU64 = uint64 (i + 1)) ∧ chain = g :: bs) ∧
    (∀ chain, blocksFromFile lib fs chainfile g = .ok chain →
      ∀ k (h : k < chain.length), 0 < k → chain[k].numberU64 = uint64 k) ∧
    (∀ e, blocksFromFile lib fs chainfile g = .error e ↔
      ∃ (bs : List Block) (x : DecodeResult) (rest : List DecodeResult), lib.newStream r = bs.map .block ++ x :: rest ∧
        (∀ i (h : i < bs.length), bs[i].numberU64 = uint64 (i + 1)) ∧ rejection bs.length x = some e) := by
  have accepts : ∀ chain, blocksFromFile lib fs chainfile g = .ok chain ↔
      ∃ bs, EndsAfter bs (lib.newStream r) ∧
        (∀ i (h : i < bs.length), bs[i].numberU64 = uint64 (i + 1)) ∧ chain = g :: bs := by
    intro chain
    simp [blocksFromFile_of_reader opened, decodeBlocks_ok_iff, numbered_zero_iff]
  refine ⟨accepts, ?_, fun e => ?_⟩
  · intro chain accepted k h positive
    obtain ⟨bs, -, numbered, rfl⟩ := (accepts chain).1 accepted
    obtain ⟨j, rfl⟩ : ∃ j, k = j + 1 := ⟨k - 1, by omega⟩
    simpa using numbered j (by simpa using h)
  · simp [blocksFromFile_of_reader opened, decodeBlocks_error_iff, numbered_zero_iff]

theorem sample_chain_accepted :
    blocksFromFile sampleLibrary sampleFiles "chain.rlp" ⟨0, 0⟩ = .ok [⟨0, 0⟩, ⟨1, 0⟩] :=
  ((blocksFromFile_accepts_numbered_streams sampleLibrary sampleFiles "chain.rlp" ⟨0, 0⟩ ⟨[1], none⟩
    rfl).1 _).2 ⟨[⟨1, 0⟩], .inl rfl, by decide, rfl⟩

theorem blocksFromFile_accepts_wrapped_numbers :
    blocksFromFile { sampleLibrary with newStream := fun _ => [.block ⟨2 ^ 64 + 1, 0⟩] } sampleFiles
        "chain.rlp" ⟨0, 0⟩ = .ok [⟨0, 0⟩, ⟨2 ^ 64 + 1, 0⟩] ∧
      blocksFromFile { sampleLibrary with newStream := fun _ => [.block ⟨1, 0⟩, .block ⟨2 ^ 64 + 2, 0⟩] } sampleFiles
        "chain.rlp" ⟨0, 0⟩ = .ok [⟨0, 0⟩, ⟨1, 0⟩, ⟨2 ^ 64 + 2, 0⟩] ∧
      2 ^ 64 + 1 ≠ 0 + 1 ∧ 2 ^ 64 + 2 ≠ 1 + 1 :=
  ⟨rfl, rfl, by decide, by decide⟩

end ProtocolCtf
