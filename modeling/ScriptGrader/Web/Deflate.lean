/-!
# Compressed bytes

Reading bytes that were compressed: a row of blocks, in which the bytes
stand as they are or as codes of several bits; a code stands for a byte or
for some bytes that came before. What was read up to an error or up to an
early end is kept.
-/

namespace ScriptGrader.Web.Deflate

/-- What is wrong with compressed bytes. -/
inductive Fault
  | header
  | method
  | windowSize
  | headerFlags
  | headerCheck
  /-- The bytes cannot be read without a dictionary. -/
  | dictionary
  | blockType
  | storedLengths
  | tooManySymbols
  | lengthCodes
  | repetition
  | noEnd
  | literalCodes
  | distanceCodes
  | literal
  | distance
  | tooFarBack
  | check
  | size
  deriving DecidableEq, Repr

namespace Fault

def text : Fault → String
  | header => "incorrect header check"
  | method => "unknown compression method"
  | windowSize => "invalid window size"
  | headerFlags => "unknown header flags set"
  | headerCheck => "header crc mismatch"
  | dictionary => ""
  | blockType => "invalid block type"
  | storedLengths => "invalid stored block lengths"
  | tooManySymbols => "too many length or distance symbols"
  | lengthCodes => "invalid code lengths set"
  | repetition => "invalid bit length repeat"
  | noEnd => "invalid code -- missing end-of-block"
  | literalCodes => "invalid literal/lengths set"
  | distanceCodes => "invalid distances set"
  | literal => "invalid literal/length code"
  | distance => "invalid distance code"
  | tooFarBack => "invalid distance too far back"
  | check => "incorrect data check"
  | size => "incorrect length check"

def message (f : Fault) : String :=
  if f = dictionary then "Error 2 while decompressing data"
  else s!"Error -3 while decompressing data: {f.text}"

end Fault

/-- Why reading stops. -/
inductive Stop
  /-- The bytes end too early. -/
  | short
  | fault (f : Fault)
  deriving DecidableEq, Repr

/-- Bits to read, the lowest of each byte first, and what was written. -/
structure State where
  bits : List Bool
  output : Array UInt8

/-- A piece of reading. -/
abbrev Reading := ExceptT Stop (StateM State)

/-- The bits of bytes. -/
def bitsOf (bytes : List UInt8) : List Bool :=
  bytes.flatMap fun b => (List.range 8).map b.toNat.testBit

def refuse {α : Type} (f : Fault) : Reading α := throw (.fault f)

/-- The number in the next bits, the lowest first. -/
def take (count : Nat) : Reading Nat := do
  let s ← get
  let next := s.bits.take count
  if next.length < count then throw .short
  else
    set { s with bits := s.bits.drop count }
    return next.foldr (fun b n => n * 2 + b.toNat) 0

/-- Leave out the bits up to the next byte. -/
def align : Reading Unit := modify fun s => { s with bits := s.bits.drop (s.bits.length % 8) }

def write (byte : Nat) : Reading Unit :=
  modify fun s => { s with output := s.output.push (UInt8.ofNat byte) }

/-! ## Codes -/

/-- A set of codes: how many there are of each length from one on, and
their symbols in order. -/
structure Codes where
  counts : List Nat
  symbols : Array Nat
  deriving Repr

namespace Codes

/-- The longest code. -/
def lengthLimit : Nat := 15

/-- The codes of the symbols with given lengths; zero is for a symbol without a code. -/
def ofLengths (lengths : List Nat) : Codes :=
  let longest := max 1 (lengths.foldl max 0)
  ⟨(List.range longest).map fun n => lengths.count (n + 1),
    ((List.range longest).flatMap fun n =>
      (lengths.zipIdx.filter fun x => x.1 = n + 1).map (·.2)).toArray⟩

/-- How many more codes of the greatest length there could be; negative if there are too many. -/
def room (c : Codes) : Int := c.counts.foldl (fun (left : Int) n => left * 2 - Int.ofNat n) 1

/-- Can the codes be told apart, and is none missing? A set of one short
code or of none is good where `mayLack` says so. -/
def isGood (c : Codes) (mayLack : Bool) : Bool :=
  c.symbols.isEmpty || c.room = 0 || (0 < c.room && mayLack && c.counts.length = 1)

/-- Read a code: the symbol, if the bits are a code. -/
def read (c : Codes) : Reading (Option Nat) := go c.counts 0 0 0
where
  go : List Nat → (code first index : Nat) → Reading (Option Nat)
    | [], _, _, _ => return none
    | count :: counts, code, first, index => do
      let code := code * 2 + (← take 1)
      if code < first + count then return c.symbols[index + (code - first)]?
      else go counts code ((first + count) * 2) (index + count)

end Codes

/-- The codes of a block that does not bring its own. -/
def fixedLiterals : Codes :=
  .ofLengths (List.replicate 144 8 ++ List.replicate 112 9 ++ List.replicate 24 7 ++ List.replicate 8 8)

def fixedDistances : Codes := .ofLengths (List.replicate 32 5)

/-! ## Blocks -/

/-- The least number and the count of further bits for each code of a length. -/
def lengthBases : Array (Nat × Nat) :=
  #[(3, 0), (4, 0), (5, 0), (6, 0), (7, 0), (8, 0), (9, 0), (10, 0), (11, 1), (13, 1), (15, 1),
    (17, 1), (19, 2), (23, 2), (27, 2), (31, 2), (35, 3), (43, 3), (51, 3), (59, 3), (67, 4),
    (83, 4), (99, 4), (115, 4), (131, 5), (163, 5), (195, 5), (227, 5), (258, 0)]

/-- The same for distances. -/
def distanceBases : Array (Nat × Nat) :=
  #[(1, 0), (2, 0), (3, 0), (4, 0), (5, 1), (7, 1), (9, 2), (13, 2), (17, 3), (25, 3), (33, 4),
    (49, 4), (65, 5), (97, 5), (129, 6), (193, 6), (257, 7), (385, 7), (513, 8), (769, 8),
    (1025, 9), (1537, 9), (2049, 10), (3073, 10), (4097, 11), (6145, 11), (8193, 12), (12289, 12),
    (16385, 13), (24577, 13)]

/-- Write bytes again that were written before. -/
def copy (length distance : Nat) : Reading Unit := do
  if (← get).output.size < distance then refuse .tooFarBack
  else
    let again (out : Array UInt8) : Array UInt8 := out.push ((out[out.size - distance]?).getD 0)
    modify fun s => { s with output := (List.range length).foldl (fun out _ => again out) s.output }

/-- Symbols up to the end of a block. Each takes a bit at least. -/
def symbols (literals distances : Codes) : Nat → Reading Unit
  | 0 => throw .short
  | fuel + 1 => do
    match ← literals.read with
    | none => refuse .literal
    | some symbol =>
      if symbol < 256 then
        write symbol
        symbols literals distances fuel
      else if symbol = 256 then return
      else
        match lengthBases[symbol - 257]? with
        | none => refuse .literal
        | some (base, more) =>
          let length := base + (← take more)
          match (← distances.read).bind (distanceBases[·]?) with
          | none => refuse .distance
          | some (base, more) =>
            copy length (base + (← take more))
            symbols literals distances fuel

/-- A block whose bytes stand as they are. -/
def stored : Reading Unit := do
  align
  let length ← take 16
  if length + (← take 16) ≠ 0xffff then refuse .storedLengths
  else (List.replicate length ()).forM fun _ => do write (← take 8)

/-- In what order the lengths of the codes for lengths stand. -/
def lengthOrder : List Nat := [16, 17, 18, 0, 8, 7, 9, 6, 10, 5, 11, 4, 12, 3, 13, 2, 14, 1, 15]

/-- The lengths of so many codes, of which some are known. -/
def lengths (codes : Codes) (total : Nat) : Nat → List Nat → Reading (List Nat)
  | 0, done => return done
  | fuel + 1, done => do
    if total ≤ done.length then return done
    else
      let again (value least more : Nat) : Reading (List Nat) := do
        let count := least + (← take more)
        if total < done.length + count then refuse .repetition
        else lengths codes total fuel (done ++ List.replicate count value)
      match (← codes.read).getD 0 with
      | 16 =>
        let count := 3 + (← take 2)
        match done.getLast? with
        | none => refuse .repetition
        | some value =>
          if total < done.length + count then refuse .repetition
          else lengths codes total fuel (done ++ List.replicate count value)
      | 17 => again 0 3 3
      | 18 => again 0 11 7
      | n => lengths codes total fuel (done ++ [n])

/-- A block that brings its codes. -/
def coded : Reading Unit := do
  let literalCount := 257 + (← take 5)
  let distanceCount := 1 + (← take 5)
  let lengthCount := 4 + (← take 4)
  if 286 < literalCount ∨ 30 < distanceCount then refuse .tooManySymbols
  else
    let given ← (lengthOrder.take lengthCount).mapM fun symbol => return (symbol, ← take 3)
    let lengthCodes := Codes.ofLengths ((List.range 19).map fun n => (given.lookup n).getD 0)
    if !lengthCodes.isGood false then refuse .lengthCodes
    else
      let total := literalCount + distanceCount
      let all ← lengths lengthCodes total total []
      let literals := Codes.ofLengths (all.take literalCount)
      let distances := Codes.ofLengths (all.drop literalCount)
      if all[256]? = some 0 then refuse .noEnd
      else if !literals.isGood true then refuse .literalCodes
      else if !distances.isGood true then refuse .distanceCodes
      else symbols literals distances ((← get).bits.length + 1)

/-- Blocks up to the last one. Each takes a bit at least. -/
def blocks : Nat → Reading Unit
  | 0 => throw .short
  | fuel + 1 => do
    let isLast ← take 1
    match ← take 2 with
    | 0 => stored
    | 1 => symbols fixedLiterals fixedDistances ((← get).bits.length + 1)
    | 2 => coded
    | _ => refuse .blockType
    if isLast = 1 then return else blocks fuel

/-- All blocks. -/
def all : Reading Unit := do blocks ((← get).bits.length + 1)

/-! ## Checks -/

/-- A check of bytes by two sums. -/
def sumCheck (bytes : List UInt8) : Nat :=
  let (a, b) := bytes.foldl (fun (a, b) (x : UInt8) =>
    let a := (a + x.toNat) % 65521
    (a, (b + a) % 65521)) (1, 0)
  b * 65536 + a

/-- A check of bytes by the remainder of a division of polynomials. -/
def divisionCheck (bytes : List UInt8) : Nat :=
  let step (n : Nat) : Nat := if n % 2 = 1 then (n / 2) ^^^ 0xedb88320 else n / 2
  (bytes.foldl (fun n (b : UInt8) => (List.range 8).foldl (fun n _ => step n) (n ^^^ b.toNat))
    0xffffffff) ^^^ 0xffffffff

/-- What was written so far. -/
def written : Reading (List UInt8) := return (← get).output.toList

/-! ## Frames -/

/-- Blocks between a short header and a check of the bytes. -/
def framed : Reading Unit := do
  let header ← take 16
  if (header % 256 * 256 + header / 256) % 31 ≠ 0 then refuse .header
  else if header % 16 ≠ 8 then refuse .method
  else if 7 < header / 16 % 16 then refuse .windowSize
  else if (header / 8192) % 2 = 1 then
    let _ ← take 32
    refuse .dictionary
  else
    all
    align
    let given ← (List.range 4).mapM fun _ => take 8
    if given.foldl (· * 256 + ·) 0 ≠ sumCheck (← written) then refuse .check

/-- Bytes up to a zero, of which there may be as many as bits. -/
def skipText : Nat → Reading Unit
  | 0 => return
  | fuel + 1 => do if (← take 8) ≠ 0 then skipText fuel

/-- Blocks behind the header of a file, with checks of the bytes and their
number. `bytes` are those of the whole file. -/
def file (bytes : List UInt8) : Reading Unit := do
  if (← take 16) ≠ 0x8b1f then refuse .header
  else
    let method ← take 16
    let flag (n : Nat) : Bool := (method / 256).testBit n
    if method % 256 ≠ 8 then refuse .method
    else if flag 5 || flag 6 || flag 7 then refuse .headerFlags
    else
      let _ ← take 32
      let _ ← take 16
      if flag 2 then
        let size ← take 16
        let _ ← take (size * 8)
      if flag 3 then skipText bytes.length
      if flag 4 then skipText bytes.length
      if flag 1 then
        let header := bytes.take (bytes.length - (← get).bits.length / 8)
        if (← take 16) ≠ divisionCheck header % 65536 then refuse .headerCheck
      all
      align
      if (← take 32) ≠ divisionCheck (← written) then refuse .check
      else if (← take 32) ≠ (← get).output.size % 0x100000000 then refuse .size

/-- What is read of bytes, up to their end if they end too early. -/
def output (r : Reading Unit) (bytes : List UInt8) : Except Fault (List UInt8) :=
  match r.run ⟨bitsOf bytes, #[]⟩ with
  | (.error (.fault f), _) => .error f
  | (_, s) => .ok s.output.toList

end ScriptGrader.Web.Deflate
