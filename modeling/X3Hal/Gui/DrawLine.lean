import X3Hal.Gui.DownSample
import X3Hal.Memory.Fills

/-!
# Lines in a buffer

`drawLine` splits a buffer into blocks, into rows of them or into a grid, and fills the block of a
position.  Drawn again and again, each byte shows the last line of its own block.
-/

namespace X3Hal.Gui

open X3Hal.Memory

/-- A call of `drawLine`, with the result of the lock -/
structure LineCall where
  val : UInt8
  ptnW : Int
  ptnH : Int
  pos : Int
  locks : Bool
  deriving DecidableEq

/-- A pattern of zero is one. -/
def patternOf (ptn : Int) : Nat :=
  if ptn = 0 then 1 else ptn.toNat

/-- `log_w` and `log_h`, at most 5 -/
def lineLog (ptn : Int) : Nat :=
  if 5 < (patternOf ptn).log2 then 5 else (patternOf ptn).log2

/-- `line_w` and `line_h` -/
def lineCount (ptn : Int) : Nat :=
  2 ^ lineLog ptn

/-- The position that only locks and unlocks -/
def forceSync : Int := 5670766

/-- `bits`: a custom format, from `0x100` on, is taken for a plane of bytes. -/
def lineBits (isCustom : PixelFormat → Bool) (info : BufferInfo) : Nat :=
  if isCustom info.format then 8 else getBitsPerPixel info.format

/-- A product in a `uint32_t` -/
def toUint32Nat (value : Nat) : Nat :=
  value % 2 ^ 32

/-- The `memset` calls where `ptn_w` is one -/
def rowFills (bits : Nat) (info : BufferInfo) (call : LineCall) : List Fill :=
  let pos := (call.pos % 2 ^ 32).toNat &&& (lineCount call.ptnH - 1)
  let bsize := (toUint32Nat (info.stride * info.height * bits) >>> 3) >>> lineLog call.ptnH
  [⟨toUint32Nat (bsize * pos), bsize⟩]

/-- The `memset` calls where `ptn_w` is more than one -/
def gridFills (bits : Nat) (info : BufferInfo) (call : LineCall) : List Fill :=
  let pos := (call.pos % 2 ^ 32).toNat
  let lineW := lineCount call.ptnW
  let blockW := info.width >>> lineLog call.ptnW
  let blockH := info.height >>> lineLog call.ptnH
  let posX := pos &&& (lineW - 1)
  let posY := (pos / lineW) &&& (lineCount call.ptnH - 1)
  let bytesW := toUint32Nat (blockW * bits) >>> 3
  let first := toUint32Nat ((toUint32Nat (info.stride * posY * blockH * bits) >>> 3) +
    bytesW * posX)
  (List.range blockH).map fun j => ⟨first + j * (toUint32Nat (info.stride * bits) >>> 3), bytesW⟩

/-- `drawLine` on the memory that is locked -/
def drawLine (isCustom : PixelFormat → Bool) (info : BufferInfo) (memory : List UInt8)
    (call : LineCall) : Option (List UInt8) :=
  -- the `log2` of a negative pattern is no number, and its conversion is undefined
  if call.ptnW < 0 ∨ call.ptnH < 0 then none
  else if call.locks = false ∨ call.pos = forceSync then some memory
  else
    (if patternOf call.ptnW = 1 then rowFills (lineBits isCustom info) info call
      else gridFills (lineBits isCustom info) info call).foldlM (fillCells call.val) memory

/-! ## The blocks of a buffer -/

/-- The block of a byte where a buffer is split into rows -/
def rowBlock (bits : Nat) (info : BufferInfo) (ptnH : Int) (i : Nat) : Option Nat :=
  let size := info.stride * info.height * bits / 8 / lineCount ptnH
  if 0 < size ∧ i / size < lineCount ptnH then some (i / size) else none

/-- The block of a byte where a buffer is split into a grid -/
def gridBlock (bits : Nat) (info : BufferInfo) (ptnW ptnH : Int) (i : Nat) : Option Nat :=
  let rowBytes := info.stride * bits / 8
  let bytesW := info.width / lineCount ptnW * bits / 8
  let blockH := info.height / lineCount ptnH
  let column := i % rowBytes / bytesW
  let row := i / rowBytes / blockH
  if 0 < bytesW ∧ 0 < blockH ∧ column < lineCount ptnW ∧ row < lineCount ptnH then
    some (row * lineCount ptnW + column)
  else none

/-- The block of a byte; the bytes that are left over have none. -/
def lineBlock (bits : Nat) (info : BufferInfo) (ptnW ptnH : Int) (i : Nat) : Option Nat :=
  if patternOf ptnW = 1 then rowBlock bits info ptnH i else gridBlock bits info ptnW ptnH i

/-- A line covers the bytes of the block that its position names; positions come round. -/
def LineCall.Covers (bits : Nat) (info : BufferInfo) (call : LineCall) (i : Nat) : Prop :=
  call.locks = true ∧ call.pos ≠ forceSync ∧
    lineBlock bits info call.ptnW call.ptnH i =
      some (call.pos % (lineCount call.ptnW * lineCount call.ptnH)).toNat

instance (bits : Nat) (info : BufferInfo) (call : LineCall) (i : Nat) :
    Decidable (call.Covers bits info i) :=
  inferInstanceAs (Decidable (_ ∧ _))

/-- The rows of a buffer are whole bytes within its memory, and its size in bits is a
`uint32_t`. -/
structure LineFits (bits : Nat) (info : BufferInfo) (size : Nat) : Prop where
  width : info.width ≤ info.stride
  bytes : 8 ∣ info.stride * bits
  small : info.stride * info.height * bits < 2 ^ 32
  inside : info.stride * info.height * bits / 8 ≤ size

section Fills

variable {bits : Nat} {info : BufferInfo} {call : LineCall} {size i : Nat}

theorem lineCount_pos (ptn : Int) : 0 < lineCount ptn :=
  Nat.two_pow_pos _

theorem lineLog_le (ptn : Int) : lineLog ptn ≤ 5 := by
  rw [lineLog]
  split <;> omega

theorem shiftRight_lineLog (n : Nat) (ptn : Int) : n >>> lineLog ptn = n / lineCount ptn :=
  Nat.shiftRight_eq_div_pow n (lineLog ptn)

theorem land_lineCount (n : Nat) (ptn : Int) : n &&& (lineCount ptn - 1) = n % lineCount ptn :=
  Nat.and_two_pow_sub_one_eq_mod n (lineLog ptn)

/-- Positions come round in a word as they do in a block. -/
theorem toNat_emod_blocks (pos ptnW ptnH : Int) :
    (pos % (lineCount ptnW * lineCount ptnH)).toNat =
      (pos % 2 ^ 32).toNat % (lineCount ptnW * lineCount ptnH) := by
  have divides : lineCount ptnW * lineCount ptnH ∣ 2 ^ 32 := by
    rw [lineCount, lineCount, ← Nat.pow_add]
    apply Nat.pow_dvd_pow
    have := lineLog_le ptnW
    have := lineLog_le ptnH
    omega
  have word : (0 : Int) ≤ pos % 2 ^ 32 := Int.emod_nonneg pos (by decide)
  have whole : ((lineCount ptnW * lineCount ptnH : Nat) : Int) ∣ 2 ^ 32 := by
    exact_mod_cast divides
  apply Int.ofNat.inj
  have positive : ((lineCount ptnW * lineCount ptnH : Nat) : Int) ≠ 0 := by
    have := Nat.mul_pos (lineCount_pos ptnW) (lineCount_pos ptnH)
    omega
  rw [Int.ofNat_eq_natCast, Int.ofNat_eq_natCast, Int.toNat_of_nonneg, Int.natCast_emod,
    Int.toNat_of_nonneg word, Int.emod_emod_of_dvd pos whole]
  · rfl
  · exact Int.emod_nonneg pos (by exact_mod_cast positive)

theorem LineFits.toUint32Nat_of_le (fits : LineFits bits info size) {value : Nat}
    (le : value ≤ info.stride * info.height * bits) : toUint32Nat value = value :=
  Nat.mod_eq_of_lt (Nat.lt_of_le_of_lt le fits.small)

/-- The fill of a row of blocks -/
theorem rowFills_spec (fits : LineFits bits info size) (isRow : patternOf call.ptnW = 1) :
    (∀ fill ∈ rowFills bits info call, fill.start + fill.size ≤ size) ∧
    ((∃ fill ∈ rowFills bits info call, fill.Covers i) ↔
      rowBlock bits info call.ptnH i =
        some (call.pos % (lineCount call.ptnW * lineCount call.ptnH)).toNat) := by
  have count : lineCount call.ptnW = 1 := by rw [lineCount, lineLog, isRow]; rfl
  rw [toNat_emod_blocks, count, Nat.one_mul]
  have positive := lineCount_pos call.ptnH
  have last := Nat.mod_lt (call.pos % 2 ^ 32).toNat positive
  have small := fits.small
  have inside := fits.inside
  rw [rowFills, rowBlock, fits.toUint32Nat_of_le le_rfl, shiftRight_lineLog, land_lineCount,
    Nat.shiftRight_eq_div_pow]
  generalize (call.pos % 2 ^ 32).toNat % lineCount call.ptnH = pos at last ⊢
  generalize info.stride * info.height * bits = total at small inside ⊢
  have parts : total / 8 / lineCount call.ptnH * lineCount call.ptnH ≤ total / 8 :=
    Nat.div_mul_le_self _ _
  generalize isSize : total / 8 / lineCount call.ptnH = bsize at parts
  have block : bsize * pos + bsize ≤ total / 8 := by
    calc bsize * pos + bsize = bsize * (pos + 1) := (Nat.mul_succ bsize pos).symm
      _ ≤ bsize * lineCount call.ptnH := Nat.mul_le_mul_left bsize last
      _ ≤ total / 8 := parts
  have start : toUint32Nat (bsize * pos) = bsize * pos := by
    apply Nat.mod_eq_of_lt
    omega
  simp only [start, List.mem_singleton, forall_eq, exists_eq_left, Fill.Covers]
  refine ⟨block.trans inside, ?_⟩
  rw [Option.ite_none_right_eq_some, Option.some.injEq]
  constructor
  · rintro ⟨from_, below⟩
    have filled : 0 < bsize := by omega
    have isPos : i / bsize = pos := by
      apply Nat.div_eq_of_lt_le
      · rw [Nat.mul_comm]
        exact from_
      · rw [Nat.succ_mul, Nat.mul_comm]
        exact below
    exact ⟨⟨filled, isPos ▸ last⟩, isPos⟩
  · rintro ⟨⟨filled, -⟩, rfl⟩
    exact ⟨Nat.mul_div_le i bsize, Nat.lt_mul_div_succ i filled⟩

/-- The cells of a grid, row by row -/
theorem exists_row_iff {rowBytes bytesW blockH lineW posX posY : Nat} (last : posX < lineW)
    (narrow : bytesW * lineW ≤ rowBytes) :
    (∃ j < blockH, rowBytes * (posY * blockH + j) + bytesW * posX ≤ i ∧
        i < rowBytes * (posY * blockH + j) + bytesW * posX + bytesW) ↔
      0 < bytesW ∧ 0 < blockH ∧ i % rowBytes / bytesW = posX ∧ i / rowBytes / blockH = posY := by
  have column : bytesW * posX + bytesW ≤ rowBytes := by
    calc bytesW * posX + bytesW = bytesW * (posX + 1) := (Nat.mul_succ bytesW posX).symm
      _ ≤ bytesW * lineW := Nat.mul_le_mul_left bytesW last
      _ ≤ rowBytes := narrow
  constructor
  · rintro ⟨j, isRow, from_, below⟩
    have filled : 0 < bytesW := by omega
    have wide : 0 < rowBytes := by omega
    obtain ⟨row, rest⟩ : i / rowBytes = posY * blockH + j ∧
        i % rowBytes = i - rowBytes * (posY * blockH + j) := by
      rw [Nat.div_mod_unique wide]
      constructor
      · omega
      · omega
    refine ⟨filled, by omega, ?_, ?_⟩
    · rw [rest]
      apply Nat.div_eq_of_lt_le
      · rw [Nat.mul_comm]
        omega
      · rw [Nat.succ_mul, Nat.mul_comm posX]
        omega
    · rw [row]
      apply Nat.div_eq_of_lt_le
      · omega
      · rw [Nat.succ_mul]
        omega
  · rintro ⟨filled, high, rfl, rfl⟩
    refine ⟨i / rowBytes % blockH, Nat.mod_lt _ high, ?_⟩
    have row : i / rowBytes / blockH * blockH + i / rowBytes % blockH = i / rowBytes :=
      Nat.div_add_mod' _ _
    have split : rowBytes * (i / rowBytes) + i % rowBytes = i := Nat.div_add_mod _ _
    have left := Nat.mul_div_le (i % rowBytes) bytesW
    have right := Nat.lt_mul_div_succ (i % rowBytes) filled
    rw [row]
    rw [Nat.mul_succ] at right
    constructor
    · omega
    · omega

/-- The fill of a block of a grid -/
theorem gridFills_spec (fits : LineFits bits info size) :
    (∀ fill ∈ gridFills bits info call, fill.start + fill.size ≤ size) ∧
    ((∃ fill ∈ gridFills bits info call, fill.Covers i) ↔
      gridBlock bits info call.ptnW call.ptnH i =
        some (call.pos % (lineCount call.ptnW * lineCount call.ptnH)).toNat) := by
  rw [toNat_emod_blocks, Nat.mod_mul]
  have lastX := Nat.mod_lt (call.pos % 2 ^ 32).toNat (lineCount_pos call.ptnW)
  have lastY := Nat.mod_lt ((call.pos % 2 ^ 32).toNat / lineCount call.ptnW)
    (lineCount_pos call.ptnH)
  rw [gridFills, gridBlock]
  simp only [shiftRight_lineLog, land_lineCount]
  generalize (call.pos % 2 ^ 32).toNat % lineCount call.ptnW = posX at lastX ⊢
  generalize (call.pos % 2 ^ 32).toNat / lineCount call.ptnW % lineCount call.ptnH = posY
    at lastY ⊢
  obtain ⟨rowBytes, isRow⟩ := fits.bytes
  have tall : 1 ≤ info.height := info.filled.2.1
  have rows : info.height / lineCount call.ptnH * lineCount call.ptnH ≤ info.height :=
    Nat.div_mul_le_self _ _
  generalize isHigh : info.height / lineCount call.ptnH = blockH at rows
  have height : posY * blockH + blockH ≤ info.height := by
    calc posY * blockH + blockH = (posY + 1) * blockH := (Nat.succ_mul posY blockH).symm
      _ ≤ lineCount call.ptnH * blockH := Nat.mul_le_mul_right blockH lastY
      _ ≤ info.height := by rwa [Nat.mul_comm]
  have total : info.stride * info.height * bits = 8 * (rowBytes * info.height) := by
    rw [Nat.mul_right_comm, isRow, Nat.mul_assoc]
  have oneRow : rowBytes ≤ rowBytes * info.height := Nat.le_mul_of_pos_right rowBytes tall
  have small := fits.small
  have inside := fits.inside
  rw [total] at small inside
  have bytesRow : toUint32Nat (8 * rowBytes) >>> 3 = rowBytes := by
    rw [toUint32Nat, Nat.mod_eq_of_lt (by omega), Nat.shiftRight_eq_div_pow]
    omega
  have wide : info.width / lineCount call.ptnW * bits * lineCount call.ptnW ≤ 8 * rowBytes := by
    calc info.width / lineCount call.ptnW * bits * lineCount call.ptnW
        = info.width / lineCount call.ptnW * lineCount call.ptnW * bits := Nat.mul_right_comm _ _ _
      _ ≤ info.stride * bits :=
          Nat.mul_le_mul_right bits ((Nat.div_mul_le_self _ _).trans fits.width)
      _ = 8 * rowBytes := isRow
  have blockBits : info.width / lineCount call.ptnW * bits ≤ 8 * rowBytes :=
    (Nat.le_mul_of_pos_right _ (lineCount_pos call.ptnW)).trans wide
  have bytesBlock : toUint32Nat (info.width / lineCount call.ptnW * bits) >>> 3 =
      info.width / lineCount call.ptnW * bits / 8 := by
    rw [toUint32Nat, Nat.mod_eq_of_lt (by omega), Nat.shiftRight_eq_div_pow]
  have narrow : info.width / lineCount call.ptnW * bits / 8 * lineCount call.ptnW ≤ rowBytes := by
    have eighth := Nat.mul_div_le (info.width / lineCount call.ptnW * bits) 8
    have scaled := Nat.mul_le_mul_right (lineCount call.ptnW) eighth
    rw [Nat.mul_assoc] at scaled
    omega
  rw [isRow, bytesRow, bytesBlock, Nat.mul_div_cancel_left rowBytes (by decide)]
  generalize info.width / lineCount call.ptnW * bits / 8 = bytesW at narrow ⊢
  have column : bytesW * posX + bytesW ≤ rowBytes := by
    calc bytesW * posX + bytesW = bytesW * (posX + 1) := (Nat.mul_succ bytesW posX).symm
      _ ≤ bytesW * lineCount call.ptnW := Nat.mul_le_mul_left bytesW lastX
      _ ≤ rowBytes := narrow
  have above : rowBytes * (posY * blockH) + rowBytes ≤ rowBytes * info.height := by
    rw [← Nat.mul_succ]
    apply Nat.mul_le_mul_left
    rcases Nat.eq_zero_or_pos blockH with rfl | high
    · rw [Nat.mul_zero]
      exact tall
    · omega
  have first : toUint32Nat ((toUint32Nat (info.stride * posY * blockH * bits) >>> 3) +
      bytesW * posX) = rowBytes * (posY * blockH) + bytesW * posX := by
    have bitsAbove : info.stride * posY * blockH * bits = 8 * (rowBytes * (posY * blockH)) := by
      rw [Nat.mul_assoc info.stride, Nat.mul_right_comm, isRow, Nat.mul_assoc]
    rw [bitsAbove, toUint32Nat, toUint32Nat, Nat.mod_eq_of_lt (by omega),
      Nat.shiftRight_eq_div_pow, Nat.mod_eq_of_lt (by omega)]
    omega
  have rowStart : ∀ j, rowBytes * (posY * blockH) + bytesW * posX + j * rowBytes =
      rowBytes * (posY * blockH + j) + bytesW * posX := by
    intro j
    rw [Nat.mul_add, Nat.mul_comm j]
    omega
  rw [first]
  simp only [List.mem_map, List.mem_range, forall_exists_index, and_imp,
    forall_apply_eq_imp_iff₂, rowStart]
  constructor
  · intro j isRow
    have below : rowBytes * (posY * blockH + j) + rowBytes ≤ rowBytes * info.height := by
      rw [← Nat.mul_succ]
      apply Nat.mul_le_mul_left
      omega
    omega
  · have cells : (∃ fill : Fill, (∃ j < blockH,
        Fill.mk (rowBytes * (posY * blockH + j) + bytesW * posX) bytesW = fill) ∧ fill.Covers i) ↔
        ∃ j < blockH, rowBytes * (posY * blockH + j) + bytesW * posX ≤ i ∧
          i < rowBytes * (posY * blockH + j) + bytesW * posX + bytesW := by
      constructor
      · rintro ⟨fill, ⟨j, isRow, rfl⟩, covers⟩
        exact ⟨j, isRow, covers⟩
      · rintro ⟨j, isRow, covers⟩
        exact ⟨_, ⟨j, isRow, rfl⟩, covers⟩
    rw [cells, exists_row_iff lastX narrow, Option.ite_none_right_eq_some, Option.some.injEq]
    constructor
    · rintro ⟨filled, high, rfl, rfl⟩
      exact ⟨⟨filled, high, lastX, lastY⟩, by rw [Nat.add_comm, Nat.mul_comm]⟩
    · rintro ⟨⟨filled, high, inRow, -⟩, same⟩
      have names : (posX + lineCount call.ptnW * posY) / lineCount call.ptnW = posY ∧
          (posX + lineCount call.ptnW * posY) % lineCount call.ptnW = posX :=
        (Nat.div_mod_unique (lineCount_pos call.ptnW)).mpr ⟨rfl, lastX⟩
      have found : (posX + lineCount call.ptnW * posY) / lineCount call.ptnW =
            i / rowBytes / blockH ∧
          (posX + lineCount call.ptnW * posY) % lineCount call.ptnW = i % rowBytes / bytesW :=
        (Nat.div_mod_unique (lineCount_pos call.ptnW)).mpr
          ⟨by rw [← same, Nat.add_comm, Nat.mul_comm], inRow⟩
      exact ⟨filled, high, found.2.symm.trans names.2, found.1.symm.trans names.1⟩

/-- One line fills its own block. -/
theorem drawLine_spec {isCustom : PixelFormat → Bool}
    (fits : LineFits (lineBits isCustom info) info size) {call : LineCall}
    (patterns : 0 ≤ call.ptnW ∧ 0 ≤ call.ptnH) (memory : List UInt8)
    (length : memory.length = size) :
    ∃ after, drawLine isCustom info memory call = some after ∧ after.length = size ∧
      ∀ i, after[i]? =
        if call.Covers (lineBits isCustom info) info i then some call.val else memory[i]? := by
  rw [drawLine, if_neg (not_or.mpr ⟨not_lt.mpr patterns.1, not_lt.mpr patterns.2⟩)]
  by_cases nothing : call.locks = false ∨ call.pos = forceSync
  · refine ⟨memory, if_pos nothing, length, fun i => ?_⟩
    rw [if_neg]
    rintro ⟨locks, other, -⟩
    rcases nothing with unlocked | same
    · rw [locks] at unlocked
      cases unlocked
    · exact other same
  · rw [not_or, Bool.not_eq_false] at nothing
    have covers : ∀ i, call.Covers (lineBits isCustom info) info i ↔
        lineBlock (lineBits isCustom info) info call.ptnW call.ptnH i =
          some (call.pos % (lineCount call.ptnW * lineCount call.ptnH)).toNat := fun i =>
      ⟨fun covers => covers.2.2, fun block => ⟨nothing.1, nothing.2, block⟩⟩
    rw [if_neg (not_or.mpr ⟨by rw [nothing.1]; decide, nothing.2⟩)]
    have fills : ∀ list : List Fill, (∀ fill ∈ list, fill.start + fill.size ≤ size) →
        (∀ i, (∃ fill ∈ list, fill.Covers i) ↔ call.Covers (lineBits isCustom info) info i) →
        ∃ after, list.foldlM (fillCells call.val) memory = some after ∧ after.length = size ∧
          ∀ i, after[i]? = if call.Covers (lineBits isCustom info) info i then some call.val
            else memory[i]? := by
      intro list inside same
      rw [← length] at inside
      obtain ⟨after, ran, afterLength, cells⟩ := exists_fills call.val inside
      refine ⟨after, ran, afterLength.trans length, fun i => ?_⟩
      rw [cells]
      simp only [same]
    split
    case isTrue isRow =>
      apply fills
      · exact (rowFills_spec (i := 0) fits isRow).1
      · intro i
        rw [covers, lineBlock, if_pos isRow]
        exact (rowFills_spec fits isRow).2
    case isFalse isGrid =>
      apply fills
      · exact (gridFills_spec (i := 0) fits).1
      · intro i
        rw [covers, lineBlock, if_neg isGrid]
        exact (gridFills_spec fits).2

end Fills

/-- However lines are drawn, with any values and positions and any patterns that are not negative,
each byte of the buffer shows the last line of its own block, and no other byte changes. -/
theorem lines_show_last {isCustom : PixelFormat → Bool} {info : BufferInfo} {memory : List UInt8}
    (fits : LineFits (lineBits isCustom info) info memory.length) {calls : List LineCall}
    (patterns : ∀ call ∈ calls, 0 ≤ call.ptnW ∧ 0 ≤ call.ptnH) :
    ∃ after, calls.foldlM (drawLine isCustom info) memory = some after ∧
      after.length = memory.length ∧
      ∀ i, after[i]? =
        ((calls.filter fun call =>
          decide (call.Covers (lineBits isCustom info) info i)).getLast?.map LineCall.val).or
          memory[i]? :=
  exists_draws (fun _ occurs => drawLine_spec fits (patterns _ occurs)) memory rfl

/-- A small buffer of four by four pixels, with a line in its first block and one at a position
that comes round to the last block. -/
theorem lines_show_last_small : ∃ after,
    ([⟨1, 2, 2, 0, true⟩, ⟨2, 2, 2, -1, true⟩] : List LineCall).foldlM
      (drawLine (fun _ => false) ⟨4, 4, 4, 4, .rgba8888, by decide⟩) (List.replicate 64 0) =
      some after ∧
    after[0]? = some 1 ∧ after[8]? = some 0 ∧ after[63]? = some 2 := by
  have fits : LineFits (lineBits (fun _ => false) ⟨4, 4, 4, 4, .rgba8888, by decide⟩)
      ⟨4, 4, 4, 4, .rgba8888, by decide⟩ (List.replicate 64 (0 : UInt8)).length :=
    ⟨by decide, by decide, by decide, by decide⟩
  have patterns : ∀ call ∈ ([⟨1, 2, 2, 0, true⟩, ⟨2, 2, 2, -1, true⟩] : List LineCall),
      0 ≤ call.ptnW ∧ 0 ≤ call.ptnH := by decide
  obtain ⟨after, ran, -, bytes⟩ := lines_show_last fits patterns
  refine ⟨after, ran, ?_, ?_, ?_⟩
  · rw [bytes]
    decide +kernel
  · rw [bytes]
    decide +kernel
  · rw [bytes]
    decide +kernel

end X3Hal.Gui
