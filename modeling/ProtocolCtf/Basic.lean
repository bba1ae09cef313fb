import Mathlib.Algebra.Group.Nat.Basic
import Mathlib.Data.List.Basic

/- Data shared by the protocol-ctf tools. A Go `error` is the text its `Error()` method returns;
   a block is the two header fields the tools read; the working directory is a map from file
   names to contents, and an `io.Reader` is the bytes it yields, then `io.EOF` or a read error.
   The library calls the tools make (rlp, gzip, encoding/json and `core.Genesis.ToBlock`) are
   fields of `Library`, a parameter of every program. Their types give each call a value or an
   error and no panic: that no input, a crafted `chain.rlp` or `genesis.json` included, makes
   them panic is the one property of the library the model assumes; any other is a theorem's
   hypothesis. -/

set_option autoImplicit false

namespace ProtocolCtf

structure GoError where
  msg : String
deriving DecidableEq, Repr

abbrev Bytes := List UInt8

abbrev Hash := BitVec 256

-- The header number is a `*big.Int`, so after RLP decoding any non-negative integer. The
-- transactions, uncles and other header fields are summed up by the hash, which no tool recomputes.
structure Block where
  number : Nat
  hash : Hash
deriving DecidableEq, Repr

def uint64 (n : Nat) : Nat := n % 2 ^ 64

def Block.numberU64 (b : Block) : Nat := uint64 b.number

def hasSuffix (s suffix : String) : Bool := suffix.toList.isSuffixOf s.toList

structure Reader where
  bytes : Bytes
  failure : Option GoError
deriving DecidableEq, Repr

structure FileSystem where
  files : String → Option Bytes

namespace FileSystem

def write (fs : FileSystem) (name : String) (contents : Bytes) : FileSystem :=
  ⟨fun other => if other = name then some contents else fs.files other⟩

def notFound (name : String) : GoError := ⟨"open " ++ name ++ ": no such file or directory"⟩

def readFile (fs : FileSystem) (name : String) : Except GoError Bytes :=
  match fs.files name with
  | some contents => .ok contents
  | none => .error (notFound name)

def openFile (fs : FileSystem) (name : String) : Except GoError Reader :=
  match fs.files name with
  | some contents => .ok ⟨contents, none⟩
  | none => .error (notFound name)

@[simp] theorem write_files_self (fs : FileSystem) (name : String) (contents : Bytes) :
    (fs.write name contents).files name = some contents := by
  simp [write]

theorem openFile_write (fs : FileSystem) (name : String) (contents : Bytes) :
    (fs.write name contents).openFile name = .ok ⟨contents, none⟩ := by
  simp [openFile]

end FileSystem

inductive DecodeResult where
  | block (b : Block)
  | eof
  | err (e : GoError)
deriving DecidableEq, Repr

structure ChainConfig where
  chainID : Option Nat
deriving DecidableEq, Repr

structure Genesis where
  config : Option ChainConfig
deriving DecidableEq, Repr

-- `newStream` is `rlp.NewStream(r, 0)` followed by `Decode` calls into blocks, in order; once the
-- list runs out every further call answers `io.EOF`. `encodeRLP` gives the pieces
-- `Block.EncodeRLP` hands to `Write`, one call each. No field can panic: an assumption.
structure Library where
  encodeRLP : Block → List Bytes
  newStream : Reader → List DecodeResult
  gzipNewReader : Reader → Except GoError Reader
  unmarshalGenesis : Bytes → Except GoError Genesis
  marshalGenesis : Genesis → Except GoError Bytes
  toBlock : Genesis → Block

def Library.encoding (lib : Library) (b : Block) : Bytes := (lib.encodeRLP b).flatten

def Library.chainEncoding (lib : Library) (blocks : List Block) : Bytes :=
  (blocks.map lib.encoding).flatten

@[simp] theorem Library.chainEncoding_nil (lib : Library) : lib.chainEncoding [] = [] := rfl

@[simp] theorem Library.chainEncoding_cons (lib : Library) (b : Block) (blocks : List Block) :
    lib.chainEncoding (b :: blocks) = lib.encoding b ++ lib.chainEncoding blocks := rfl

inductive Failure where
  | error (e : GoError)
  | panic (msg : String)
deriving DecidableEq, Repr

def nilDereference : Failure :=
  .panic "runtime error: invalid memory address or nil pointer dereference"

inductive Exit where
  | success (stdout : String)
  | failure (stderr : String)
  | panic (msg : String)
deriving DecidableEq, Repr

def sampleLibrary : Library where
  encodeRLP b := [[UInt8.ofNat b.number]]
  newStream r := r.bytes.map fun byte => .block ⟨byte.toNat, 0⟩
  gzipNewReader r := .ok r
  unmarshalGenesis _ := .ok ⟨some ⟨some 1⟩⟩
  marshalGenesis _ := .ok []
  toBlock _ := ⟨0, 0⟩

def sampleFiles : FileSystem :=
  ⟨fun name => if name = "chain.rlp" then some [1] else if name = "genesis.json" then some [] else none⟩

end ProtocolCtf
