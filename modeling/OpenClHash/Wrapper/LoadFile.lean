import OpenClHash.Library.Block
import OpenClHash.Wrapper.Operations

/-!
Owns `utils::load_file` over the C library it calls: exactly when one of its stores leaves
the block it allocates, what it returns otherwise, and what it leaves open or allocated. A
context calls it with an empty preamble, and sees the list of bytes that its own model reads.
-/

namespace OpenClHash.Wrapper.LoadFile

open OpenClHash.Library OpenClHash.Library.Fallible

/-! ### The C library -/

/-- An opened file: what `ftell` says at its end, and the bytes `fread` gets from its start
until the file ends or cannot be read. -/
structure Stream where
  told : BitVec 64
  bytes : List (BitVec 8)

structure CLibrary where
  fopen : String → Option Stream
  /-- Whether there is memory for a block of this size. -/
  malloc : BitVec 64 → Bool

/-- A null-terminated string, without its terminator. -/
structure CString where
  chars : List (BitVec 8)
  terminated : 0#8 ∉ chars
  addressable : chars.length < 2 ^ 64

def CString.empty : CString := ⟨[], by decide, by decide⟩

def strlen (text : CString) : BitVec 64 := BitVec.ofNat 64 text.chars.length

@[simp]
theorem strlen_toNat (text : CString) : (strlen text).toNat = text.chars.length :=
  Nat.mod_eq_of_lt text.addressable

@[simp]
theorem strlen_empty : strlen CString.empty = 0#64 := rfl

inductive Fault where
  | store (fault : Block.Fault)
  | streamNotOpen
  | doubleFree
deriving DecidableEq, Repr

structure Memory where
  /-- How many streams are open. -/
  streams : Nat
  /-- What `cSourceString` points to. -/
  sourceString : Block (BitVec 8)
  /-- What `szFinalLength` points to, unless it is null. -/
  finalLength : Option (BitVec 64)
deriving DecidableEq, Repr

abbrev Run : Type → Type := EStateM Fault Memory

def fopen (library : CLibrary) (cFilename : String) : Run (Option Stream) := do
  match library.fopen cFilename with
  | none => return none
  | some stream =>
      modify fun memory => { memory with streams := memory.streams + 1 }
      return some stream

def fclose : Run Unit := do
  if (← get).streams = 0 then
    throw .streamNotOpen
  modify fun memory => { memory with streams := memory.streams - 1 }

/-- The pointer returned is null if the result is `false`. -/
def malloc (library : CLibrary) (size : BitVec 64) : Run Bool := do
  modify fun memory =>
    { memory with sourceString := Block.allocate (library.malloc size) size.toNat }
  return library.malloc size

/-- Freeing a null pointer does nothing. -/
def free : Run Unit := do
  match (← get).sourceString with
  | .null => return ()
  | .freed => throw .doubleFree
  | .live _ => modify fun memory => { memory with sourceString := .freed }

/-- Stores through `cSourceString + offset`. -/
def storeAll (bytes : List (BitVec 8)) (offset : Nat) : Run Unit := do
  match Block.storeAll bytes offset (← get).sourceString with
  | .error fault => throw (.store fault)
  | .ok block => modify fun memory => { memory with sourceString := block }

/-- What `fread` of one element of this size stores. -/
def Stream.delivered (stream : Stream) (size : BitVec 64) : List (BitVec 8) :=
  stream.bytes.take size.toNat

/-- `fread` of one element, from the start of the file; returns how many were read whole. -/
def fread (stream : Stream) (offset : Nat) (size : BitVec 64) : Run Nat := do
  storeAll (stream.delivered size) offset
  return if size ≠ 0 ∧ (stream.delivered size).length = size.toNat then 1 else 0

/-! ### `load_file` -/

/-- The `memcpy` and the `fread` of `load_file`. -/
def readString (pFileStream : Stream) (cPreamble : CString) : Run Nat := do
  let szPreambleLength := strlen cPreamble
  storeAll (cPreamble.chars.take szPreambleLength.toNat) 0
  fread pFileStream szPreambleLength.toNat pFileStream.told

/-- `load_file` once it has its block; `cSourceString` is the pointer it got. -/
def fillString (pFileStream : Stream) (cPreamble : CString) (cSourceString : Bool) : Run Bool := do
  if (← readString pFileStream cPreamble) ≠ 1 then
    fclose
    free
    return false
  else
    let szLength := pFileStream.told + strlen cPreamble
    fclose
    modify fun memory => { memory with finalLength := memory.finalLength.map fun _ => szLength }
    storeAll [0#8] szLength.toNat
    return cSourceString

/-- `utils::load_file`; the pointer returned is null if the result is `false`. -/
def loadFile (library : CLibrary) (cFilename : String) (cPreamble : CString) : Run Bool := do
  match ← fopen library cFilename with
  | none => return false
  | some pFileStream =>
      let cSourceString ← malloc library (pFileStream.told + strlen cPreamble + 1)
      fillString pFileStream cPreamble cSourceString

/-- Before the call: nothing open or allocated. -/
def start (finalLength : Option (BitVec 64)) : Memory := ⟨0, .null, finalLength⟩

section Runs

variable (library : CLibrary) (cFilename : String) (cPreamble : CString) (stream : Stream)
  (finalLength : Option (BitVec 64))

/-- What the block is to hold before the terminator: the preamble and what the file gave. -/
def filling : List (BitVec 8) := cPreamble.chars ++ stream.delivered stream.told

def blockSize : BitVec 64 := stream.told + strlen cPreamble + 1

/-- There is nothing to store, or a block that is large enough. -/
def Fits : Prop :=
  filling cPreamble stream = [] ∨
    library.malloc (blockSize cPreamble stream) = true ∧
      (filling cPreamble stream).length ≤ (blockSize cPreamble stream).toNat

/-- The file has as many bytes as it told, and not none. -/
def Whole : Prop := 0 < stream.told.toNat ∧ stream.told.toNat ≤ stream.bytes.length

variable {library cFilename cPreamble stream finalLength}

theorem run_storeAll (bytes : List (BitVec 8)) (offset : Nat) (memory : Memory) :
    (storeAll bytes offset).run memory =
      match Block.storeAll bytes offset memory.sourceString with
      | .error fault => .error (.store fault) memory
      | .ok block => .ok () { memory with sourceString := block } := by
  unfold storeAll
  rw [run_get_bind]
  cases Block.storeAll bytes offset memory.sourceString <;> rfl

theorem Whole.length_filling (whole : Whole stream) :
    (filling cPreamble stream).length = stream.told.toNat + cPreamble.chars.length := by
  rw [filling, List.length_append, Stream.delivered, List.length_take, min_eq_left whole.2,
    Nat.add_comm]

/-- A sum that wraps is too small for what the file gave. -/
theorem Whole.blockSize_toNat (whole : Whole stream)
    (enough : (filling cPreamble stream).length ≤ (blockSize cPreamble stream).toNat) :
    (blockSize cPreamble stream).toNat = (filling cPreamble stream).length + 1 := by
  have size : (blockSize cPreamble stream).toNat =
      (stream.told.toNat + cPreamble.chars.length + 1) % 2 ^ 64 := by
    simp [blockSize, BitVec.toNat_add]
  rw [size, whole.length_filling] at enough ⊢
  have bound := stream.told.isLt
  have addressable := cPreamble.addressable
  omega

theorem whole_iff : stream.told ≠ 0 ∧
    (stream.delivered stream.told).length = stream.told.toNat ↔ Whole stream := by
  have positive : stream.told ≠ 0 ↔ 0 < stream.told.toNat := by
    rw [Nat.pos_iff_ne_zero, ne_eq, ne_eq, ← BitVec.toNat_inj]
    rfl
  rw [positive, Whole, Stream.delivered, List.length_take, min_eq_left_iff]

theorem run_closed (closed : library.fopen cFilename = none) :
    (loadFile library cFilename cPreamble).run (start finalLength) =
      .ok false (start finalLength) := by
  unfold loadFile fopen
  rw [closed]
  rfl

/-- The block behind the pointer that `malloc` returned. -/
def allocated (library : CLibrary) (cPreamble : CString) (stream : Stream) : Block (BitVec 8) :=
  Block.allocate (library.malloc (blockSize cPreamble stream)) (blockSize cPreamble stream).toNat

theorem run_opened (opened : library.fopen cFilename = some stream) :
    (loadFile library cFilename cPreamble).run (start finalLength) =
      (fillString stream cPreamble (library.malloc (blockSize cPreamble stream))).run
        ⟨1, allocated library cPreamble stream, finalLength⟩ := by
  unfold loadFile fopen
  rw [opened]
  rfl

theorem stores_iff_fits :
    (∃ block, Block.storeAll (filling cPreamble stream) 0 (allocated library cPreamble stream) =
      .ok block) ↔ Fits library cPreamble stream := by
  rw [Block.storeAll_ok_iff, Fits, allocated, Block.allocate]
  by_cases memory : library.malloc (blockSize cPreamble stream) = true
  · simp [memory]
  · simp [memory]

/-- What the block holds before the terminator is stored. -/
def filled (library : CLibrary) (cPreamble : CString) (stream : Stream) : Block (BitVec 8) :=
  if library.malloc (blockSize cPreamble stream) then
    .live ((filling cPreamble stream).map some ++
      List.replicate ((blockSize cPreamble stream).toNat - (filling cPreamble stream).length) none)
  else .null

theorem Fits.stored (fits : Fits library cPreamble stream) :
    Block.storeAll (filling cPreamble stream) 0 (allocated library cPreamble stream) =
      .ok (filled library cPreamble stream) := by
  unfold allocated filled
  cases memory : library.malloc (blockSize cPreamble stream) with
  | true =>
      apply Block.storeAll_fresh
      rcases fits with none | ⟨_, enough⟩
      · rw [none]
        exact Nat.zero_le _
      · exact enough
  | false =>
      rcases fits with none | ⟨given, _⟩
      · rw [none]
        rfl
      · rw [memory] at given
        cases given

section Filled

variable {cSourceString : Bool} {memory : Memory}

theorem run_storeAll_ok {bytes : List (BitVec 8)} {offset : Nat} {block : Block (BitVec 8)}
    (stored : Block.storeAll bytes offset memory.sourceString = .ok block) :
    (storeAll bytes offset).run memory = .ok () { memory with sourceString := block } := by
  rw [run_storeAll, stored]

theorem run_storeAll_error {bytes : List (BitVec 8)} {offset : Nat} {fault : Block.Fault}
    (refused : Block.storeAll bytes offset memory.sourceString = .error fault) :
    (storeAll bytes offset).run memory = .error (.store fault) memory := by
  rw [run_storeAll, refused]

/-- The preamble and what the file gave are stored as one run of bytes. -/
theorem run_readString_ok {block : Block (BitVec 8)}
    (stored : Block.storeAll (filling cPreamble stream) 0 memory.sourceString = .ok block) :
    ∃ read, (readString stream cPreamble).run memory =
        .ok read { memory with sourceString := block } ∧
      (read = 1 ↔ Whole stream) := by
  have all : cPreamble.chars.take (strlen cPreamble).toNat = cPreamble.chars := by simp
  rw [filling, Block.storeAll_append, Nat.zero_add] at stored
  cases first : Block.storeAll cPreamble.chars 0 memory.sourceString with
  | error fault =>
      rw [first] at stored
      cases stored
  | ok between =>
      rw [first] at stored
      unfold readString
      dsimp only
      rw [all, strlen_toNat, run_bind_ok (run_storeAll_ok first)]
      have rest : Block.storeAll (stream.delivered stream.told) cPreamble.chars.length between =
          .ok block := stored
      unfold fread
      rw [run_bind_ok (@run_storeAll_ok { memory with sourceString := between } _ _ _ rest)]
      refine ⟨_, rfl, ?_⟩
      rw [← whole_iff]
      split
      · exact iff_of_true rfl ‹_›
      · exact iff_of_false Nat.zero_ne_one ‹_›

theorem run_readString_error {fault : Block.Fault}
    (refused : Block.storeAll (filling cPreamble stream) 0 memory.sourceString = .error fault) :
    ∃ after, (readString stream cPreamble).run memory = .error (.store fault) after := by
  have all : cPreamble.chars.take (strlen cPreamble).toNat = cPreamble.chars := by simp
  rw [filling, Block.storeAll_append, Nat.zero_add] at refused
  unfold readString
  dsimp only
  rw [all, strlen_toNat]
  cases first : Block.storeAll cPreamble.chars 0 memory.sourceString with
  | error other =>
      rw [first] at refused
      cases refused
      exact ⟨memory, run_bind_error (run_storeAll_error first)⟩
  | ok between =>
      rw [first] at refused
      rw [run_bind_ok (run_storeAll_ok first)]
      unfold fread
      exact ⟨{ memory with sourceString := between },
        run_bind_error (run_storeAll_error refused)⟩

end Filled

/-- `load_file` does not return if a store of it leaves the block. -/
theorem run_outside (opened : library.fopen cFilename = some stream)
    (outside : ¬ Fits library cPreamble stream) :
    ∃ fault after, (loadFile library cFilename cPreamble).run (start finalLength) =
      .error (.store fault) after := by
  rw [← stores_iff_fits] at outside
  rw [run_opened opened]
  cases stored :
      Block.storeAll (filling cPreamble stream) 0 (allocated library cPreamble stream) with
  | ok block => exact absurd ⟨block, stored⟩ outside
  | error fault =>
      obtain ⟨after, refused⟩ := @run_readString_error cPreamble stream
        ⟨1, allocated library cPreamble stream, finalLength⟩ fault stored
      exact ⟨fault, after, run_bind_error refused⟩

/-- The stream is closed and the block freed, if there is one, when the file was not read
whole. -/
theorem run_short (opened : library.fopen cFilename = some stream)
    (fits : Fits library cPreamble stream) (short : ¬ Whole stream) :
    (loadFile library cFilename cPreamble).run (start finalLength) =
      .ok false ⟨0, if library.malloc (blockSize cPreamble stream) then .freed else .null,
        finalLength⟩ := by
  obtain ⟨read, ran, one⟩ := @run_readString_ok cPreamble stream
    ⟨1, allocated library cPreamble stream, finalLength⟩ _ fits.stored
  rw [run_opened opened]
  unfold fillString
  rw [run_bind_ok ran, if_pos (one.not.mpr short)]
  unfold filled
  cases library.malloc (blockSize cPreamble stream) <;> rfl

theorem run_whole (opened : library.fopen cFilename = some stream)
    (fits : Fits library cPreamble stream) (whole : Whole stream) :
    (loadFile library cFilename cPreamble).run (start finalLength) =
      .ok true ⟨0, .live ((filling cPreamble stream).map some ++ [some 0#8]),
        finalLength.map fun _ => stream.told + strlen cPreamble⟩ := by
  obtain ⟨memory, enough⟩ := fits.resolve_left fun none => by
    have length : (filling cPreamble stream).length = _ := whole.length_filling
    rw [none, List.length_nil] at length
    have positive := whole.1
    omega
  have size := whole.blockSize_toNat enough
  obtain ⟨read, ran, one⟩ := @run_readString_ok cPreamble stream
    ⟨1, allocated library cPreamble stream, finalLength⟩ _ fits.stored
  have last : (stream.told + strlen cPreamble).toNat = (filling cPreamble stream).length := by
    have bound := (blockSize cPreamble stream).isLt
    rw [size, whole.length_filling] at bound
    rw [BitVec.toNat_add, strlen_toNat, whole.length_filling]
    exact Nat.mod_eq_of_lt (Nat.lt_of_succ_lt bound)
  have terminated : Block.storeAll [0#8] (stream.told + strlen cPreamble).toNat
      (filled library cPreamble stream) =
        .ok (.live ((filling cPreamble stream).map some ++ [some 0#8])) := by
    rw [last, filled, if_pos memory, size, Nat.add_sub_cancel_left, Block.storeAll_live]
    · simp [Regions.splice]
    · simp
  rw [run_opened opened]
  unfold fillString
  rw [run_bind_ok ran, if_neg (not_not.mpr (one.mpr whole)), memory]
  exact run_bind_ok (@run_storeAll_ok ⟨0, filled library cPreamble stream,
    finalLength.map fun _ => stream.told + strlen cPreamble⟩ _ _ _ terminated)

/-- Nothing but a store goes wrong, and it does exactly if it leaves the block. -/
theorem run_faulted {fault : Fault} {after : Memory}
    (raised : (loadFile library cFilename cPreamble).run (start finalLength) = .error fault after) :
    (∃ stored, fault = .store stored) ∧
      ∃ stream, library.fopen cFilename = some stream ∧ ¬ Fits library cPreamble stream := by
  cases file : library.fopen cFilename with
  | none =>
      rw [run_closed file] at raised
      cases raised
  | some stream =>
      by_cases fits : Fits library cPreamble stream
      · by_cases whole : Whole stream
        · rw [run_whole file fits whole] at raised
          cases raised
        · rw [run_short file fits whole] at raised
          cases raised
      · obtain ⟨stored, other, outside⟩ := @run_outside library cFilename cPreamble stream
          finalLength file fits
        rw [outside] at raised
        cases raised
        exact ⟨⟨stored, rfl⟩, stream, rfl, fits⟩

theorem faults_iff :
    (∃ fault after, (loadFile library cFilename cPreamble).run (start finalLength) =
      .error (.store fault) after) ↔
    ∃ stream, library.fopen cFilename = some stream ∧ ¬ Fits library cPreamble stream := by
  constructor
  · rintro ⟨fault, after, raised⟩
    exact (run_faulted raised).2
  · rintro ⟨stream, opened, outside⟩
    exact run_outside opened outside

/-- The block is too small only if its size wrapped. -/
theorem blockSize_lt_iff :
    (blockSize cPreamble stream).toNat < (filling cPreamble stream).length ↔
      2 ^ 64 ≤ stream.told.toNat + cPreamble.chars.length + 1 ∧
        stream.told.toNat + cPreamble.chars.length + 1 - 2 ^ 64 <
          (filling cPreamble stream).length := by
  have size : (blockSize cPreamble stream).toNat =
      (stream.told.toNat + cPreamble.chars.length + 1) % 2 ^ 64 := by
    simp [blockSize, BitVec.toNat_add]
  have most : (filling cPreamble stream).length ≤ stream.told.toNat + cPreamble.chars.length := by
    rw [filling, List.length_append, Stream.delivered, List.length_take]
    omega
  have bound := stream.told.isLt
  have addressable := cPreamble.addressable
  rw [size]
  omega

/-- Whatever the C library does, a store of `load_file` goes astray exactly if something is
stored and there is no memory for the block, or its size wrapped and is too small. Streams and
blocks are never given back twice. -/
theorem loadFile_astray_iff :
    ((∃ fault after, (loadFile library cFilename cPreamble).run (start finalLength) =
      .error (.store fault) after) ↔
    ∃ stream, library.fopen cFilename = some stream ∧
      cPreamble.chars ++ stream.bytes.take stream.told.toNat ≠ [] ∧
      (library.malloc (stream.told + strlen cPreamble + 1) = false ∨
        2 ^ 64 ≤ stream.told.toNat + cPreamble.chars.length + 1 ∧
          stream.told.toNat + cPreamble.chars.length + 1 - 2 ^ 64 <
            (cPreamble.chars ++ stream.bytes.take stream.told.toNat).length)) ∧
    ∀ after,
      (loadFile library cFilename cPreamble).run (start finalLength) ≠
        .error .streamNotOpen after ∧
      (loadFile library cFilename cPreamble).run (start finalLength) ≠
        .error .doubleFree after := by
  constructor
  · rw [faults_iff]
    apply exists_congr
    intro stream
    apply and_congr_right
    intro opened
    rw [Fits, not_or, not_and_or, Bool.not_eq_true, Nat.not_le, blockSize_lt_iff]
    rfl
  · intro after
    constructor
    · intro raised
      obtain ⟨⟨stored, same⟩, _⟩ := run_faulted raised
      cases same
    · intro raised
      obtain ⟨⟨stored, same⟩, _⟩ := run_faulted raised
      cases same

/-- `create_kernel` passes no preamble: the one size that wraps is that of a file whose
length `ftell` could not tell. -/
theorem loadFile_astray_iff_of_empty :
    (∃ fault after, (loadFile library cFilename .empty).run (start finalLength) =
      .error (.store fault) after) ↔
    ∃ stream, library.fopen cFilename = some stream ∧ stream.delivered stream.told ≠ [] ∧
      (library.malloc (stream.told + 1) = false ∨ stream.told = BitVec.ofInt 64 (-1)) := by
  rw [faults_iff]
  apply exists_congr
  intro stream
  apply and_congr_right
  intro opened
  have size : blockSize .empty stream = stream.told + 1 := by
    simp [blockSize]
  have content : filling .empty stream = stream.delivered stream.told := rfl
  have untold : stream.told = BitVec.ofInt 64 (-1) ↔ stream.told.toNat + 1 = 2 ^ 64 := by
    rw [← BitVec.toNat_inj]
    have value : (BitVec.ofInt 64 (-1)).toNat + 1 = 2 ^ 64 := by decide
    omega
  rw [Fits, not_or, not_and_or, Bool.not_eq_true, Nat.not_le, blockSize_lt_iff, size, content,
    untold]
  apply and_congr_right
  intro some
  have length := List.length_pos_iff.mpr some
  have bound := stream.told.isLt
  have none : CString.empty.chars.length = 0 := rfl
  rw [none]
  apply or_congr_right
  omega

theorem fits_of_returned {returned : Bool} {after : Memory}
    (ran : (loadFile library cFilename cPreamble).run (start finalLength) = .ok returned after)
    (opened : library.fopen cFilename = some stream) : Fits library cPreamble stream := by
  by_contra outside
  obtain ⟨fault, other, raised⟩ := @run_outside library cFilename cPreamble stream finalLength
    opened outside
  rw [raised] at ran
  cases ran

/-- The length stored is that of the text, which with its terminator is no multiple of the
address space. -/
theorem Whole.length_lt (whole : Whole stream) (fits : Fits library cPreamble stream) :
    (filling cPreamble stream).length + 1 < 2 ^ 64 := by
  rcases fits with none | ⟨_, enough⟩
  · rw [none]
    decide
  · rw [← whole.blockSize_toNat enough]
    exact (blockSize cPreamble stream).isLt

/-- What a call that returns has done. The pointer is not null exactly if the file opened and
was read whole; then it points to the preamble, the file and a terminator, and the length is
that before the terminator. Otherwise nothing stays allocated and the length is not touched.
In no case a stream stays open. -/
theorem loadFile_returns {returned : Bool} {after : Memory}
    (ran : (loadFile library cFilename cPreamble).run (start finalLength) = .ok returned after) :
    after.streams = 0 ∧
    (returned = true ↔ ∃ stream, library.fopen cFilename = some stream ∧
      0 < stream.told.toNat ∧ stream.told.toNat ≤ stream.bytes.length) ∧
    (returned = false → after.finalLength = finalLength ∧
      ∀ cells, after.sourceString ≠ .live cells) ∧
    ∀ stream, library.fopen cFilename = some stream → returned = true →
      ∃ text, text = cPreamble.chars ++ stream.bytes.take stream.told.toNat ∧
        after.sourceString = .live (text.map some ++ [some 0#8]) ∧
        after.finalLength = finalLength.map (fun _ => BitVec.ofNat 64 text.length) ∧
        0 < text.length ∧ text.length + 1 < 2 ^ 64 := by
  cases opened : library.fopen cFilename with
  | none =>
      rw [run_closed opened] at ran
      cases ran
      exact ⟨rfl, by simp, fun _ => ⟨rfl, fun _ => nofun⟩, nofun⟩
  | some stream =>
      have fits := fits_of_returned ran opened
      by_cases whole : Whole stream
      · rw [run_whole opened fits whole] at ran
        cases ran
        refine ⟨rfl, by simpa [Whole] using whole, nofun, ?_⟩
        intro other same _
        cases same
        have length : (filling cPreamble stream).length = _ := whole.length_filling
        refine ⟨filling cPreamble stream, rfl, rfl, ?_, ?_, whole.length_lt fits⟩
        · have told : stream.told + strlen cPreamble =
              BitVec.ofNat 64 (filling cPreamble stream).length := by
            apply BitVec.eq_of_toNat_eq
            rw [length, BitVec.toNat_add, strlen_toNat, BitVec.toNat_ofNat]
          rw [told]
        · have positive := whole.1
          omega
      · rw [run_short opened fits whole] at ran
        cases ran
        refine ⟨rfl, by simpa [Whole] using whole, fun _ => ⟨rfl, ?_⟩, nofun⟩
        intro cells
        dsimp only
        split <;> exact nofun

theorem loadFile_returns_preamble :
    (∃ after, (loadFile ⟨fun _ => some ⟨2#64, [5#8, 6#8]⟩, fun _ => true⟩ "file"
      ⟨[7#8], by decide, by decide⟩).run (start (some 0#64)) = .ok true after) ∧
    ∀ after, (loadFile ⟨fun _ => some ⟨2#64, [5#8, 6#8]⟩, fun _ => true⟩ "file"
        ⟨[7#8], by decide, by decide⟩).run (start (some 0#64)) = .ok true after →
      after.streams = 0 :=
  ⟨⟨_, rfl⟩, fun _ ran => (loadFile_returns ran).1⟩

/-! ### What a context sees -/

/-- What the stream of a file of these bytes has to do with whether `fread` fails on it. -/
def Streams (stream : Stream) (source : List (BitVec 8)) (fails : Bool) : Prop :=
  stream.told.toNat = source.length ∧
    if fails then stream.bytes.length < source.length else stream.bytes = source

/-- The C library behind the file calls of a driver: a file that opens tells its length, there
is memory for it, and `fread` falls short of it when it fails. -/
structure Behind (driver : Driver) (state : State) (library : CLibrary) (path : String) :
    Prop where
  missing : driver.file state.log.length path = none → library.fopen path = none
  found : ∀ source, driver.file state.log.length path = some source →
    ∃ stream, library.fopen path = some stream ∧
      Streams stream source (driver.readFails (state.log.length + 1)) ∧
      source.length + 1 < 2 ^ 64 ∧ library.malloc (stream.told + 1) = true

theorem Streams.whole_iff {source : List (BitVec 8)} {fails : Bool}
    (streams : Streams stream source fails) :
    ¬ Whole stream ↔ source.length = 0 ∨ fails = true := by
  obtain ⟨told, rest⟩ := streams
  rw [Whole, told]
  cases fails with
  | true =>
      rw [if_pos rfl] at rest
      exact iff_of_true (fun whole => absurd whole.2 (Nat.not_le.mpr rest)) (.inr rfl)
  | false =>
      rw [if_neg Bool.false_ne_true] at rest
      rw [rest]
      simp

theorem Streams.filling_eq {source : List (BitVec 8)} (streams : Streams stream source false) :
    filling .empty stream = source := by
  obtain ⟨told, rest⟩ := streams
  rw [if_neg Bool.false_ne_true] at rest
  show stream.bytes.take stream.told.toNat = source
  rw [rest, told, List.take_length]

/-- The null pointer or list of bytes that `create_kernel` gets in the model of a context, and
the length that it checks, are what `load_file` leaves in memory. -/
theorem loadFile_behind {driver : Driver} {state : State} {path : String}
    (behind : Behind driver state library path) :
    ∃ block, (loadFile library path .empty).run (start (some 0#64)) =
        .ok (loadedSource driver path state).isSome
          ⟨0, block, some (BitVec.ofNat 64 ((loadedSource driver path state).getD []).length)⟩ ∧
      ∀ source, loadedSource driver path state = some source →
        block = .live (source.map some ++ [some 0#8]) := by
  unfold loadedSource
  cases file : driver.file state.log.length path with
  | none => exact ⟨.null, run_closed (behind.missing file), nofun⟩
  | some source =>
      obtain ⟨stream, opened, streams, bound, memory⟩ := behind.found source file
      have size : blockSize .empty stream = stream.told + 1 := by
        simp [blockSize]
      have fits : Fits library .empty stream := by
        right
        rw [size]
        refine ⟨memory, ?_⟩
        rw [← size, ← Nat.not_lt, blockSize_lt_iff, streams.1]
        intro wraps
        exact absurd wraps.1 (Nat.not_le.mpr bound)
      dsimp only
      by_cases unread : source.length = 0 ∨ driver.readFails (state.log.length + 1) = true
      · rw [if_pos unread]
        exact ⟨_, run_short opened fits (streams.whole_iff.mpr unread), nofun⟩
      · have complete := unread
        have whole : Whole stream := not_not.mp (streams.whole_iff.not.mpr unread)
        rw [not_or, Bool.not_eq_true] at unread
        rw [unread.2] at streams
        have length : stream.told + strlen .empty = BitVec.ofNat 64 source.length := by
          rw [← streams.1]
          simp
        have ran : (loadFile library path .empty).run (start (some 0#64)) = _ :=
          run_whole opened fits whole
        rw [streams.filling_eq, length] at ran
        rw [if_neg complete]
        refine ⟨_, ran, ?_⟩
        intro other same
        cases same
        rfl

end Runs

end OpenClHash.Wrapper.LoadFile
