import X3Hal.Memory.Copies
import Mathlib.Algebra.Order.Ring.Int

/-!
# Down-sampled copies

`downSampleCopy` copies the pixels of a crop rectangle, every so many of them in both directions,
to a buffer that it makes when the one of its caller does not fit.  It has a path for whole
buffers, one for rows and one for pixels.

An `int` that overflows has no value, and a copy that leaves a buffer has no result.  The real
format of a buffer and the one that it was made for are the same here.
-/

namespace X3Hal.Gui

open X3Hal.Memory X3Hal.Transition

/-! ## Data -/

inductive PixelFormat
  | rgba8888 | rgbx8888 | bgra8888
  /-- `0x1ff` -/
  | bgrx8888
  | rgb888 | rgb565 | yuyv | yv12 | ycbcr420888 | i420
  | nv12Blk | nv12BlkFcm | yuvPrivate
  | nv12Blk10BitH | nv12Blk10BitV | ufo10BitH | ufo10BitV | yuvPrivate10Bit
  | unknown
  deriving DecidableEq

def isSupportedFormat : PixelFormat → Bool
  | .rgba8888 | .rgbx8888 | .bgra8888 | .bgrx8888 | .rgb888 | .rgb565 | .yuyv | .yv12
  | .ycbcr420888 | .i420 => true
  | .nv12Blk | .nv12BlkFcm | .yuvPrivate | .nv12Blk10BitH | .nv12Blk10BitV | .ufo10BitH
  | .ufo10BitV | .yuvPrivate10Bit | .unknown => false

def getBitsPerPixel : PixelFormat → Nat
  | .rgba8888 | .rgbx8888 | .bgra8888 | .bgrx8888 => 32
  | .rgb888 => 24
  | .rgb565 | .yuyv => 16
  | .nv12Blk10BitH | .nv12Blk10BitV | .ufo10BitH | .ufo10BitV | .yuvPrivate10Bit => 15
  | .i420 | .nv12Blk | .nv12BlkFcm | .yv12 | .yuvPrivate | .ycbcr420888 => 12
  | .unknown => 0

structure Rect where
  left : Int
  top : Int
  right : Int
  bottom : Int
  deriving DecidableEq

def Rect.isEmpty (rect : Rect) : Bool :=
  rect.right - rect.left ≤ 0 ∨ rect.bottom - rect.top ≤ 0

structure DownSampleConfig where
  downSampleX : Int
  downSampleY : Int
  crop : Rect
  deriving DecidableEq

/-- `BufferInfo` -/
structure BufferInfo where
  width : Nat
  height : Nat
  stride : Nat
  vstride : Nat
  format : PixelFormat
  filled : 0 < width ∧ 0 < height ∧ 0 < stride ∧ 0 < vstride

def BufferInfo.bytesPerPixel (info : BufferInfo) : Nat :=
  getBitsPerPixel info.format / 8

/-- The size of a buffer in bytes -/
def BufferInfo.bytes (info : BufferInfo) : Nat :=
  info.stride * info.vstride * info.bytesPerPixel

/-- A buffer to copy to, as it was allocated -/
structure TargetInfo extends BufferInfo where
  within : width ≤ stride ∧ height ≤ vstride

/-- What makes a `GraphicBuffer` -/
structure BufferAllocator where
  alloc : ∀ width height : Nat, 0 < width → 0 < height → PixelFormat → TargetInfo
  width_eq : ∀ width height wide high format, (alloc width height wide high format).width = width
  height_eq : ∀ width height wide high format,
    (alloc width height wide high format).height = height
  format_eq : ∀ width height wide high format,
    (alloc width height wide high format).format = format

/-- Whether the buffers can be locked -/
structure BufferLocks where
  source : Bool
  target : Bool
  deriving DecidableEq

/-! ## The valid configuration -/

/-- `newConfig`, whose crop rectangle lies in the buffer -/
structure ValidConfig (info : BufferInfo) where
  downSampleX : Nat
  downSampleY : Nat
  left : Nat
  top : Nat
  right : Nat
  bottom : Nat
  positive : 0 < downSampleX ∧ 0 < downSampleY
  horizontal : left < right ∧ right ≤ info.stride
  vertical : top < bottom ∧ bottom ≤ info.vstride

/-- A factor, or 1 -/
def validFactor (factor : Int) (supported : Bool) : Nat :=
  if factor ≤ 0 ∨ supported = false then 1 else factor.toNat

/-- A first row or column -/
def validFirst (first : Int) (stride : Nat) : Nat :=
  if 0 ≤ first ∧ first < stride then first.toNat else 0

/-- The row or column behind the last one -/
def validLast (last : Int) (first stride : Nat) : Nat :=
  if last < stride ∧ last > first then last.toNat else stride

theorem validFactor_pos (factor : Int) (supported : Bool) : 0 < validFactor factor supported := by
  rw [validFactor]
  split <;> omega

theorem validFirst_lt {stride : Nat} (filled : 0 < stride) (first : Int) :
    validFirst first stride < stride := by
  rw [validFirst]
  split <;> omega

theorem validLast_inside {first stride : Nat} (inside : first < stride) (last : Int) :
    first < validLast last first stride ∧ validLast last first stride ≤ stride := by
  rw [validLast]
  split <;> omega

def DownSampleConfig.valid (config : DownSampleConfig) (info : BufferInfo) : ValidConfig info :=
  let supported := isSupportedFormat info.format
  if config.crop.isEmpty ∨ supported = false then
    { downSampleX := validFactor config.downSampleX supported
      downSampleY := validFactor config.downSampleY supported
      left := 0
      top := 0
      right := info.stride
      bottom := info.vstride
      positive := ⟨validFactor_pos _ _, validFactor_pos _ _⟩
      horizontal := ⟨info.filled.2.2.1, Nat.le_refl _⟩
      vertical := ⟨info.filled.2.2.2, Nat.le_refl _⟩ }
  else
    let left := validFirst config.crop.left info.stride
    let top := validFirst config.crop.top info.vstride
    { downSampleX := validFactor config.downSampleX supported
      downSampleY := validFactor config.downSampleY supported
      left := left
      top := top
      right := validLast config.crop.right left info.stride
      bottom := validLast config.crop.bottom top info.vstride
      positive := ⟨validFactor_pos _ _, validFactor_pos _ _⟩
      horizontal := validLast_inside (validFirst_lt info.filled.2.2.1 _) _
      vertical := validLast_inside (validFirst_lt info.filled.2.2.2 _) _ }

namespace ValidConfig

variable {info : BufferInfo}

def getWidth (config : ValidConfig info) : Nat :=
  config.right - config.left

def getHeight (config : ValidConfig info) : Nat :=
  config.bottom - config.top

/-- The whole buffer is copied. -/
def Whole (config : ValidConfig info) : Prop :=
  config.downSampleX = 1 ∧ config.downSampleY = 1 ∧ info.stride = config.getWidth ∧
    info.vstride = config.getHeight

instance (config : ValidConfig info) : Decidable config.Whole :=
  inferInstanceAs (Decidable (_ ∧ _ ∧ _ ∧ _))

def newWidth (config : ValidConfig info) : Nat :=
  (config.getWidth - 1) / config.downSampleX + 1

def newHeight (config : ValidConfig info) : Nat :=
  (config.getHeight - 1) / config.downSampleY + 1

/-- The buffer that is copied to: the caller's, or a new one -/
def target (config : ValidConfig info) (allocator : BufferAllocator) (dst : TargetInfo) :
    TargetInfo :=
  if config.Whole then
    if config.getWidth ≠ dst.width ∨ config.getHeight ≠ dst.height ∨ info.format ≠ dst.format then
      allocator.alloc info.width info.height info.filled.1 info.filled.2.1 info.format
    else dst
  else if config.newWidth ≠ dst.width ∨ config.newHeight ≠ dst.height ∨
      info.format ≠ dst.format then
    allocator.alloc config.newWidth config.newHeight (Nat.succ_pos _) (Nat.succ_pos _) info.format
  else dst

end ValidConfig

/-! ## The copies -/

/-- A value of an `int` that is not negative -/
def int (value : Nat) : Option Nat :=
  if value < 2 ^ 31 then some value else none

/-- The rounds of `for (i = first; i < last; j++, i += step)`, with `i` and `j`, and at most so
many of them -/
def forRounds (last step : Nat) : Nat → Nat → Nat → List (Nat × Nat)
  | 0, _, _ => []
  | fuel + 1, i, j =>
      if i < last then (i, j) :: forRounds last step fuel (i + step) (j + 1) else []

section Rounds

variable {info : BufferInfo}

/-- The copy of a row -/
def rowCopy (config : ValidConfig info) (newStride y y0 : Nat) : Option Copy := do
  let rowBytes ← int (newStride * info.bytesPerPixel)
  let write ← int (rowBytes * y0)
  let start ← int (info.stride * y)
  let first ← int (start + config.left)
  let read ← int (first * info.bytesPerPixel)
  let size ← int (config.getWidth * info.bytesPerPixel)
  some ⟨read, write, size⟩

/-- The copy of a pixel, up to the end of its round -/
def pixelCopy (config : ValidConfig info) (newStride y y0 x x0 : Nat) : Option Copy := do
  let row ← int (newStride * y0)
  let place ← int (row + x0)
  let write ← int (place * info.bytesPerPixel)
  let start ← int (info.stride * y)
  -- x has the left column already
  let first ← int (start + config.left)
  let pixel ← int (first + x)
  let read ← int (pixel * info.bytesPerPixel)
  let _ ← int (x + config.downSampleX)
  some ⟨read, write, info.bytesPerPixel⟩

/-- The copies of the body of the outer loop: a row, or its pixels -/
def bodyCopies (config : ValidConfig info) (newStride y y0 : Nat) : Option (List Copy) :=
  if config.downSampleX = 1 then (rowCopy config newStride y y0).map ([·])
  else
    (forRounds config.right config.downSampleX config.right config.left 0).mapM fun column =>
      pixelCopy config newStride y y0 column.1 column.2

/-- The copies of a round of the outer loop, up to its end -/
def roundCopies (config : ValidConfig info) (newStride : Nat) (round : Nat × Nat) :
    Option (List Copy) := do
  let copies ← bodyCopies config newStride round.1 round.2
  let _ ← int (round.1 + config.downSampleY)
  some copies

/-- The copies of both loops, when nothing overflows -/
def loopCopies (config : ValidConfig info) (newStride : Nat) : Option (List Copy) :=
  ((forRounds config.bottom config.downSampleY config.bottom config.top 0).mapM
    (roundCopies config newStride)).map List.flatten

/-- The size of the copy of a whole buffer; the product with the bits is unsigned. -/
def unsignedBytes (info : BufferInfo) (pixels : Nat) : Nat :=
  pixels * getBitsPerPixel info.format % 2 ^ 32 / 8

/-- `downSampleCopy`, on the bytes of the source and of the buffer that is copied to -/
def downSampleCopy (config : ValidConfig info) (newStride : Nat) (locks : BufferLocks)
    (source target : List UInt8) : Option (List UInt8) :=
  if locks.source = false then some target
  else if config.Whole then
    -- the result of this lock is not looked at
    if locks.target then do
      let pixels ← int (info.stride * info.vstride)
      copyCells source target ⟨0, 0, unsignedBytes info pixels⟩
    else none
  else if locks.target = false then some target
  else do
    let copies ← loopCopies config newStride
    copies.foldlM (copyCells source) target

end Rounds

/-! ## The law of the pixels -/

section Law

variable {info : BufferInfo}

/-- Every pixel is the one of the source where the configuration says. -/
def PixelLaw (config : ValidConfig info) (new : TargetInfo) (source filled : List UInt8) : Prop :=
  ∀ x0 < new.width, ∀ y0 < new.height,
    config.left + x0 * config.downSampleX < info.stride ∧
    config.top + y0 * config.downSampleY < info.vstride ∧
    ∀ byte < info.bytesPerPixel,
      filled[(new.stride * y0 + x0) * info.bytesPerPixel + byte]? =
        source[(info.stride * (config.top + y0 * config.downSampleY) +
          (config.left + x0 * config.downSampleX)) * info.bytesPerPixel + byte]?

/-- The copy stays within the buffers and is right, whatever is in them. -/
def CopiesPixels (config : ValidConfig info) (new : TargetInfo) (locks : BufferLocks) : Prop :=
  ∀ source target : List UInt8, source.length = info.bytes → target.length = new.bytes →
    ∃ filled, downSampleCopy config new.stride locks source target = some filled ∧
      PixelLaw config new source filled

end Law

def PixelsCopied (config : DownSampleConfig) (info : BufferInfo) (allocator : BufferAllocator)
    (dst : TargetInfo) (locks : BufferLocks) : Prop :=
  CopiesPixels (config.valid info) ((config.valid info).target allocator dst) locks

/-! ## When it holds -/

/-- A whole buffer fits the one that it is copied to, row by row. -/
def WholeFits (info : BufferInfo) (new : TargetInfo) : Prop :=
  let size := unsignedBytes info (info.stride * info.vstride)
  info.stride * info.vstride < 2 ^ 31 ∧ size ≤ new.bytes ∧
    new.width ≤ info.stride ∧ new.height ≤ info.vstride ∧
    (new.height = 1 ∨ new.stride = info.stride) ∧
    (new.stride * (new.height - 1) + new.width) * info.bytesPerPixel ≤ size

/-- No `int` of a row overflows. -/
def RowFits {info : BufferInfo} (config : ValidConfig info) (newStride y y0 : Nat) : Prop :=
  newStride * info.bytesPerPixel < 2 ^ 31 ∧ newStride * info.bytesPerPixel * y0 < 2 ^ 31 ∧
    (info.stride * y + config.left) * info.bytesPerPixel < 2 ^ 31 ∧
    config.getWidth * info.bytesPerPixel < 2 ^ 31

/-- No `int` of a pixel overflows. -/
def PixelFits {info : BufferInfo} (config : ValidConfig info) (newStride y y0 x x0 : Nat) : Prop :=
  (newStride * y0 + x0) * info.bytesPerPixel < 2 ^ 31 ∧
    (info.stride * y + config.left + x) * info.bytesPerPixel < 2 ^ 31 ∧
    x + config.downSampleX < 2 ^ 31

/-- No `int` of the body of the outer loop overflows. -/
def BodyFits {info : BufferInfo} (config : ValidConfig info) (newStride y0 : Nat) : Prop :=
  let y := config.top + y0 * config.downSampleY
  if config.downSampleX = 1 then RowFits config newStride y y0
  else
    ∀ x0 < config.newWidth,
      PixelFits config newStride y y0 (config.left + x0 * config.downSampleX) x0

/-- No `int` of a round of the outer loop overflows. -/
def RoundFits {info : BufferInfo} (config : ValidConfig info) (newStride y0 : Nat) : Prop :=
  BodyFits config newStride y0 ∧
    config.top + y0 * config.downSampleY + config.downSampleY < 2 ^ 31

/-- No `int` of the loops overflows. -/
def LoopsFit {info : BufferInfo} (config : ValidConfig info) (newStride : Nat) : Prop :=
  ∀ y0 < config.newHeight, RoundFits config newStride y0

/-- The buffers are locked, and the path that is taken copies what it should. -/
def CopyFits (config : DownSampleConfig) (info : BufferInfo) (allocator : BufferAllocator)
    (dst : TargetInfo) (locks : BufferLocks) : Prop :=
  let valid := config.valid info
  let new := valid.target allocator dst
  locks.source = true ∧ locks.target = true ∧
    if valid.Whole then WholeFits info new
    else (valid.downSampleX = 1 ∨ valid.left = 0) ∧ LoopsFit valid new.stride

section Decidability

variable {info : BufferInfo} (config : ValidConfig info) (new : TargetInfo)
  (newStride y y0 x x0 : Nat)

instance : Decidable (WholeFits info new) :=
  inferInstanceAs (Decidable (_ ∧ _ ∧ _ ∧ _ ∧ _ ∧ _))

instance : Decidable (RowFits config newStride y y0) :=
  inferInstanceAs (Decidable (_ ∧ _ ∧ _ ∧ _))

instance : Decidable (PixelFits config newStride y y0 x x0) :=
  inferInstanceAs (Decidable (_ ∧ _ ∧ _))

instance : Decidable (BodyFits config newStride y0) :=
  inferInstanceAs (Decidable (if config.downSampleX = 1 then _ else ∀ x0 < config.newWidth, _))

instance : Decidable (RoundFits config newStride y0) :=
  inferInstanceAs (Decidable (_ ∧ _))

instance : Decidable (LoopsFit config newStride) :=
  inferInstanceAs (Decidable (∀ y0 < config.newHeight, _))

instance (config : DownSampleConfig) (allocator : BufferAllocator) (dst : TargetInfo)
    (locks : BufferLocks) : Decidable (CopyFits config info allocator dst locks) :=
  inferInstanceAs (Decidable (_ ∧ _ ∧ if (config.valid info).Whole then _ else _ ∧ _))

end Decidability

/-! ## Rounds -/

/-- The values of a loop -/
theorem forRounds_eq {last step fuel : Nat} (positive : 0 < step) {i : Nat}
    (enough : last - i ≤ fuel) (j : Nat) :
    forRounds last step fuel i j =
      (List.range ((last - i + (step - 1)) / step)).map fun k => (i + k * step, j + k) := by
  induction fuel generalizing i j with
  | zero =>
      have none : (last - i + (step - 1)) / step = 0 := Nat.div_eq_of_lt (by omega)
      rw [forRounds, none]
      rfl
  | succ fuel ih =>
      rw [forRounds]
      split
      case isTrue more =>
        have count : (last - i + (step - 1)) / step =
            (last - (i + step) + (step - 1)) / step + 1 := by
          have whole : last - i + (step - 1) = last - i - 1 + step := by omega
          rw [whole, Nat.add_div_right _ positive]
          by_cases within : step ≤ last - i
          · congr 2
            omega
          · rw [Nat.div_eq_of_lt (by omega), Nat.div_eq_of_lt (by omega)]
        rw [ih (by omega), count, List.range_succ_eq_map, List.map_cons, List.map_map,
          Nat.zero_mul]
        congr 1
        apply List.map_congr_left
        intro k _
        simp only [Function.comp_apply, Nat.succ_eq_add_one, Nat.add_mul, Nat.one_mul]
        congr 1 <;> omega
      case isFalse ends =>
        have none : (last - i + (step - 1)) / step = 0 := Nat.div_eq_of_lt (by omega)
        rw [none]
        rfl

namespace ValidConfig

variable {info : BufferInfo}

/-- The columns of the inner loop -/
theorem forRounds_columns (config : ValidConfig info) :
    forRounds config.right config.downSampleX config.right config.left 0 =
      (List.range config.newWidth).map fun x0 => (config.left + x0 * config.downSampleX, x0) := by
  have inside := config.horizontal
  have count : (config.right - config.left + (config.downSampleX - 1)) / config.downSampleX =
      config.newWidth := by
    have positive := config.positive.1
    rw [newWidth, getWidth, ← Nat.add_div_right _ positive]
    congr 1
    omega
  rw [forRounds_eq config.positive.1 (by omega), count]
  simp only [Nat.zero_add]

/-- The rows of the outer loop -/
theorem forRounds_rows (config : ValidConfig info) :
    forRounds config.bottom config.downSampleY config.bottom config.top 0 =
      (List.range config.newHeight).map fun y0 => (config.top + y0 * config.downSampleY, y0) := by
  have inside := config.vertical
  have count : (config.bottom - config.top + (config.downSampleY - 1)) / config.downSampleY =
      config.newHeight := by
    have positive := config.positive.2
    rw [newHeight, getHeight, ← Nat.add_div_right _ positive]
    congr 1
    omega
  rw [forRounds_eq config.positive.2 (by omega), count]
  simp only [Nat.zero_add]

/-- A column that is copied lies in the crop rectangle. -/
theorem column_lt (config : ValidConfig info) {x0 : Nat} (below : x0 < config.newWidth) :
    config.left + x0 * config.downSampleX < config.right := by
  have inside := config.horizontal
  have most : x0 * config.downSampleX ≤ config.getWidth - 1 :=
    calc x0 * config.downSampleX
        ≤ (config.getWidth - 1) / config.downSampleX * config.downSampleX :=
          Nat.mul_le_mul_right _ (Nat.le_of_lt_succ below)
      _ ≤ config.getWidth - 1 := Nat.div_mul_le_self _ _
  rw [getWidth] at most
  omega

/-- A row that is copied lies in the crop rectangle. -/
theorem row_lt (config : ValidConfig info) {y0 : Nat} (below : y0 < config.newHeight) :
    config.top + y0 * config.downSampleY < config.bottom := by
  have inside := config.vertical
  have most : y0 * config.downSampleY ≤ config.getHeight - 1 :=
    calc y0 * config.downSampleY
        ≤ (config.getHeight - 1) / config.downSampleY * config.downSampleY :=
          Nat.mul_le_mul_right _ (Nat.le_of_lt_succ below)
      _ ≤ config.getHeight - 1 := Nat.div_mul_le_self _ _
  rw [getHeight] at most
  omega

/-- A buffer for rows or pixels has the size that is copied. -/
theorem target_size (config : ValidConfig info) (allocator : BufferAllocator) (dst : TargetInfo)
    (part : ¬ config.Whole) :
    (config.target allocator dst).width = config.newWidth ∧
      (config.target allocator dst).height = config.newHeight := by
  rw [target, if_neg part]
  split
  case isTrue => exact ⟨allocator.width_eq _ _ _ _ _, allocator.height_eq _ _ _ _ _⟩
  case isFalse same =>
    obtain ⟨width, other⟩ := not_or.mp same
    exact ⟨(not_not.mp width).symm, (not_not.mp (not_or.mp other).1).symm⟩

theorem target_format (config : ValidConfig info) (allocator : BufferAllocator)
    (dst : TargetInfo) : (config.target allocator dst).format = info.format := by
  rw [target]
  split
  · split
    case isTrue => exact allocator.format_eq _ _ _ _ _
    case isFalse same => exact (not_not.mp (not_or.mp (not_or.mp same).2).2).symm
  · split
    case isTrue => exact allocator.format_eq _ _ _ _ _
    case isFalse same => exact (not_not.mp (not_or.mp (not_or.mp same).2).2).symm

end ValidConfig

/-! ## The copies of the loops -/

section Loops

variable {info : BufferInfo}

/-- A step of a computation with an `int` -/
theorem int_bind_eq_some_iff {α : Type} {value : Nat} {next : Nat → Option α} {result : α} :
    (int value >>= next) = some result ↔ value < 2 ^ 31 ∧ next value = some result := by
  rw [int]
  split
  case isTrue within => exact (and_iff_right within).symm
  case isFalse wide => exact iff_of_false nofun fun both => wide both.1

theorem rowCopy_eq_some_iff (positive : 0 < info.bytesPerPixel) {config : ValidConfig info}
    {newStride y y0 : Nat} {copy : Copy} :
    rowCopy config newStride y y0 = some copy ↔ RowFits config newStride y y0 ∧
      ⟨(info.stride * y + config.left) * info.bytesPerPixel, newStride * info.bytesPerPixel * y0,
        config.getWidth * info.bytesPerPixel⟩ = copy := by
  have first := Nat.le_mul_of_pos_right (info.stride * y + config.left) positive
  simp only [rowCopy, int_bind_eq_some_iff, RowFits, Option.some.injEq]
  constructor
  · rintro ⟨row, write, -, -, read, size, same⟩
    exact ⟨⟨row, write, read, size⟩, same⟩
  · rintro ⟨⟨row, write, read, size⟩, same⟩
    exact ⟨row, write, by omega, by omega, read, size, same⟩

theorem pixelCopy_eq_some_iff (positive : 0 < info.bytesPerPixel) {config : ValidConfig info}
    {newStride y y0 x x0 : Nat} {copy : Copy} :
    pixelCopy config newStride y y0 x x0 = some copy ↔ PixelFits config newStride y y0 x x0 ∧
      ⟨(info.stride * y + config.left + x) * info.bytesPerPixel,
        (newStride * y0 + x0) * info.bytesPerPixel, info.bytesPerPixel⟩ = copy := by
  have place := Nat.le_mul_of_pos_right (newStride * y0 + x0) positive
  have pixel := Nat.le_mul_of_pos_right (info.stride * y + config.left + x) positive
  simp only [pixelCopy, int_bind_eq_some_iff, PixelFits, Option.some.injEq]
  constructor
  · rintro ⟨-, -, write, -, -, -, read, next, same⟩
    exact ⟨⟨write, read, next⟩, same⟩
  · rintro ⟨⟨write, read, next⟩, same⟩
    exact ⟨by omega, by omega, write, by omega, by omega, by omega, read, next, same⟩

/-- The copies of a row of the buffer that is copied to -/
def ValidConfig.copiesOf (config : ValidConfig info) (newStride y0 : Nat) : List Copy :=
  let y := config.top + y0 * config.downSampleY
  if config.downSampleX = 1 then
    [⟨(info.stride * y + config.left) * info.bytesPerPixel, newStride * info.bytesPerPixel * y0,
      config.getWidth * info.bytesPerPixel⟩]
  else
    (List.range config.newWidth).map fun x0 =>
      ⟨(info.stride * y + config.left + (config.left + x0 * config.downSampleX)) *
          info.bytesPerPixel,
        (newStride * y0 + x0) * info.bytesPerPixel, info.bytesPerPixel⟩

theorem bodyCopies_eq_some_iff (positive : 0 < info.bytesPerPixel) {config : ValidConfig info}
    {newStride y0 : Nat} {copies : List Copy} :
    bodyCopies config newStride (config.top + y0 * config.downSampleY) y0 = some copies ↔
      BodyFits config newStride y0 ∧ config.copiesOf newStride y0 = copies := by
  rw [bodyCopies, BodyFits, ValidConfig.copiesOf]
  split
  case isTrue =>
    simp only [Option.map_eq_some_iff, rowCopy_eq_some_iff positive]
    constructor
    · rintro ⟨copy, ⟨fits, rfl⟩, rfl⟩
      exact ⟨fits, rfl⟩
    · rintro ⟨fits, rfl⟩
      exact ⟨_, ⟨fits, rfl⟩, rfl⟩
  case isFalse =>
    rw [config.forRounds_columns, mapM_eq_some_iff fun _ _ _ => pixelCopy_eq_some_iff positive,
      List.forall_mem_map, List.map_map]
    simp only [List.mem_range]
    rfl

theorem roundCopies_eq_some_iff (positive : 0 < info.bytesPerPixel) {config : ValidConfig info}
    {newStride y0 : Nat} {copies : List Copy} :
    roundCopies config newStride (config.top + y0 * config.downSampleY, y0) = some copies ↔
      RoundFits config newStride y0 ∧ config.copiesOf newStride y0 = copies := by
  rw [roundCopies, RoundFits]
  constructor
  · intro ran
    obtain ⟨body, isBody, rest⟩ := Option.bind_eq_some_iff.mp ran
    obtain ⟨next, same⟩ := int_bind_eq_some_iff.mp rest
    obtain ⟨fits, isCopies⟩ := (bodyCopies_eq_some_iff positive).mp isBody
    exact ⟨⟨fits, next⟩, isCopies.trans (Option.some.inj same)⟩
  · rintro ⟨⟨fits, next⟩, isCopies⟩
    rw [(bodyCopies_eq_some_iff positive).mpr ⟨fits, isCopies⟩]
    exact int_bind_eq_some_iff.mpr ⟨next, rfl⟩

/-- The loops make the copies of each row, unless an `int` overflows. -/
theorem loopCopies_eq_some_iff (positive : 0 < info.bytesPerPixel) {config : ValidConfig info}
    {newStride : Nat} {copies : List Copy} :
    loopCopies config newStride = some copies ↔ LoopsFit config newStride ∧
      (List.range config.newHeight).flatMap (config.copiesOf newStride) = copies := by
  have rounds : ∀ round ∈ (List.range config.newHeight).map
      fun y0 => (config.top + y0 * config.downSampleY, y0), ∀ result,
        roundCopies config newStride round = some result ↔
          RoundFits config newStride round.2 ∧ config.copiesOf newStride round.2 = result := by
    intro round among result
    obtain ⟨y0, -, rfl⟩ := List.mem_map.mp among
    exact roundCopies_eq_some_iff positive
  rw [loopCopies, config.forRounds_rows, LoopsFit]
  simp only [Option.map_eq_some_iff, mapM_eq_some_iff rounds, List.forall_mem_map, List.map_map,
    List.mem_range]
  constructor
  · rintro ⟨rows, ⟨fits, rfl⟩, rfl⟩
    exact ⟨fits, List.flatMap_def⟩
  · rintro ⟨fits, rfl⟩
    exact ⟨_, ⟨fits, rfl⟩, List.flatMap_def.symm⟩

end Loops

/-! ## Where the copies lie -/

theorem byte_lt {byte cell : Nat} (within : byte < cell) (place : Nat) :
    place * cell + byte < (place + 1) * cell := by
  rw [Nat.succ_mul]
  exact Nat.add_lt_add_left within _

/-- Cells of a row end within the rows. -/
theorem cells_end_le {stride rows column row size : Nat} (columns : column + size ≤ stride)
    (below : row < rows) (cell : Nat) :
    (stride * row + column) * cell + size * cell ≤ stride * rows * cell := by
  rw [← Nat.add_mul]
  apply Nat.mul_le_mul_right
  calc stride * row + column + size
      ≤ stride * (row + 1) := by
        rw [Nat.mul_add, Nat.mul_one, Nat.add_assoc]
        exact Nat.add_le_add_left columns _
    _ ≤ stride * rows := Nat.mul_le_mul_left _ below

namespace ValidConfig

variable {info : BufferInfo} (config : ValidConfig info) {newStride y0 : Nat}

/-- The columns between the pixel that is copied and the one that should be -/
def skew : Nat :=
  if config.downSampleX = 1 then 0 else config.left

theorem newWidth_of_one (one : config.downSampleX = 1) : config.newWidth = config.getWidth := by
  have inside := config.horizontal
  rw [newWidth, one, Nat.div_one, getWidth]
  omega

/-- The copies of a row write within it. -/
theorem writes_row (fits : config.newWidth ≤ newStride) :
    ∀ copy ∈ config.copiesOf newStride y0,
      newStride * y0 * info.bytesPerPixel ≤ copy.write ∧
        copy.write + copy.size ≤ newStride * (y0 + 1) * info.bytesPerPixel := by
  intro copy among
  rw [copiesOf] at among
  split at among
  case isTrue one =>
    obtain rfl := List.mem_singleton.mp among
    rw [config.newWidth_of_one one] at fits
    have ends := cells_end_le (by omega : 0 + config.getWidth ≤ newStride) (Nat.lt_succ_self y0)
      info.bytesPerPixel
    rw [Nat.add_zero] at ends
    change newStride * y0 * info.bytesPerPixel ≤ newStride * info.bytesPerPixel * y0 ∧
      newStride * info.bytesPerPixel * y0 + config.getWidth * info.bytesPerPixel ≤
        newStride * (y0 + 1) * info.bytesPerPixel
    rw [Nat.mul_right_comm newStride info.bytesPerPixel y0]
    exact ⟨Nat.le_refl _, ends⟩
  case isFalse =>
    obtain ⟨x0, below, rfl⟩ := List.mem_map.mp among
    have column := List.mem_range.mp below
    have ends := cells_end_le (by omega : x0 + 1 ≤ newStride) (Nat.lt_succ_self y0)
      info.bytesPerPixel
    rw [Nat.one_mul] at ends
    exact ⟨Nat.mul_le_mul_right _ (Nat.le_add_right _ _), ends⟩

/-- The copies of the loops write one behind the other. -/
theorem inOrder_copies (fits : config.newWidth ≤ newStride) :
    InOrder ((List.range config.newHeight).flatMap (config.copiesOf newStride)) := by
  apply List.pairwise_flatMap.mpr
  constructor
  · intro y0 _
    rw [copiesOf]
    split
    case isTrue => exact List.pairwise_singleton _ _
    case isFalse =>
      apply List.pairwise_map.mpr
      apply List.pairwise_lt_range.imp
      intro x0 x1 before
      change (newStride * y0 + x0) * info.bytesPerPixel + info.bytesPerPixel ≤
        (newStride * y0 + x1) * info.bytesPerPixel
      rw [← Nat.succ_mul]
      exact Nat.mul_le_mul_right _ (by omega)
  · apply List.pairwise_lt_range.imp
    intro y0 y1 before first isFirst second isSecond
    calc first.write + first.size
        ≤ newStride * (y0 + 1) * info.bytesPerPixel := (config.writes_row fits first isFirst).2
      _ ≤ newStride * y1 * info.bytesPerPixel :=
        Nat.mul_le_mul_right _ (Nat.mul_le_mul_left _ before)
      _ ≤ second.write := (config.writes_row fits second isSecond).1

/-- The copies of a row read within the source when no column is skewed. -/
theorem reads_source (straight : config.skew = 0) (below : y0 < config.newHeight) :
    ∀ copy ∈ config.copiesOf newStride y0, copy.read + copy.size ≤ info.bytes := by
  intro copy among
  have row : config.top + y0 * config.downSampleY < info.vstride :=
    Nat.lt_of_lt_of_le (config.row_lt below) config.vertical.2
  have inside := config.horizontal
  rw [copiesOf] at among
  split at among
  case isTrue one =>
    obtain rfl := List.mem_singleton.mp among
    apply cells_end_le _ row
    rw [getWidth]
    omega
  case isFalse several =>
    rw [skew, if_neg several] at straight
    obtain ⟨x0, isColumn, rfl⟩ := List.mem_map.mp among
    have column := config.column_lt (List.mem_range.mp isColumn)
    have ends := cells_end_le (by omega : config.left + x0 * config.downSampleX + 1 ≤ info.stride)
      row info.bytesPerPixel
    rw [Nat.one_mul] at ends
    rw [straight, Nat.add_zero, ← straight]
    exact ends

/-- Every pixel of a row is copied from the skewed column. -/
theorem exists_copyOf (newStride y0 : Nat) {x0 byte : Nat} (column : x0 < config.newWidth)
    (within : byte < info.bytesPerPixel) :
    ∃ copy ∈ config.copiesOf newStride y0, ∃ i < copy.size,
      copy.write + i = (newStride * y0 + x0) * info.bytesPerPixel + byte ∧
      copy.read + i = (info.stride * (config.top + y0 * config.downSampleY) +
        (config.left + x0 * config.downSampleX + config.skew)) * info.bytesPerPixel + byte := by
  rw [copiesOf, skew]
  split
  case isTrue one =>
    rw [config.newWidth_of_one one] at column
    refine ⟨_, List.mem_singleton_self _, x0 * info.bytesPerPixel + byte, ?_, ?_, ?_⟩
    · calc x0 * info.bytesPerPixel + byte
          < (x0 + 1) * info.bytesPerPixel := byte_lt within x0
        _ ≤ config.getWidth * info.bytesPerPixel := Nat.mul_le_mul_right _ column
    · change newStride * info.bytesPerPixel * y0 + (x0 * info.bytesPerPixel + byte) = _
      rw [Nat.mul_right_comm, Nat.add_mul, Nat.add_assoc]
    · change (info.stride * (config.top + y0 * config.downSampleY) + config.left) *
        info.bytesPerPixel + (x0 * info.bytesPerPixel + byte) = _
      rw [one, Nat.mul_one, Nat.add_zero, ← Nat.add_assoc, ← Nat.add_assoc, ← Nat.add_mul]
  case isFalse =>
    refine ⟨_, List.mem_map_of_mem (List.mem_range.mpr column), byte, within, rfl, ?_⟩
    change (info.stride * (config.top + y0 * config.downSampleY) + config.left +
      (config.left + x0 * config.downSampleX)) * info.bytesPerPixel + byte = _
    congr 2
    omega

end ValidConfig

/-! ## The paths -/

section Paths

variable {info : BufferInfo} {config : ValidConfig info} {new : TargetInfo}
  {source target filled : List UInt8} {newStride : Nat}

theorem bytesPerPixel_pos (supported : isSupportedFormat info.format)
    (bytes : 8 ∣ getBitsPerPixel info.format) : 0 < info.bytesPerPixel := by
  have whole : ∀ format, isSupportedFormat format → 8 ∣ getBitsPerPixel format →
      0 < getBitsPerPixel format / 8 := by
    intro format
    cases format <;> decide
  exact whole info.format supported bytes

theorem downSampleCopy_whole_iff (whole : config.Whole) :
    downSampleCopy config newStride ⟨true, true⟩ source target = some filled ↔
      info.stride * info.vstride < 2 ^ 31 ∧
        copyCells source target ⟨0, 0, unsignedBytes info (info.stride * info.vstride)⟩ =
          some filled := by
  rw [downSampleCopy, if_neg nofun, if_pos whole, if_pos rfl, int_bind_eq_some_iff]

theorem downSampleCopy_part_iff (positive : 0 < info.bytesPerPixel) (part : ¬ config.Whole) :
    downSampleCopy config newStride ⟨true, true⟩ source target = some filled ↔
      LoopsFit config newStride ∧
        ((List.range config.newHeight).flatMap (config.copiesOf newStride)).foldlM
          (copyCells source) target = some filled := by
  rw [downSampleCopy, if_neg nofun, if_neg part, if_neg nofun]
  constructor
  · intro ran
    obtain ⟨copies, isCopies, rest⟩ := Option.bind_eq_some_iff.mp ran
    obtain ⟨fits, rfl⟩ := (loopCopies_eq_some_iff positive).mp isCopies
    exact ⟨fits, rest⟩
  · rintro ⟨fits, ran⟩
    rw [(loopCopies_eq_some_iff positive).mpr ⟨fits, rfl⟩]
    exact ran

/-- A pixel that the loops copied -/
theorem pixel_of_part (positive : 0 < info.bytesPerPixel) (part : ¬ config.Whole)
    (within : config.newWidth ≤ newStride)
    (ran : downSampleCopy config newStride ⟨true, true⟩ source target = some filled)
    {x0 y0 byte : Nat} (column : x0 < config.newWidth) (row : y0 < config.newHeight)
    (inside : byte < info.bytesPerPixel) :
    filled[(newStride * y0 + x0) * info.bytesPerPixel + byte]? =
      source[(info.stride * (config.top + y0 * config.downSampleY) +
        (config.left + x0 * config.downSampleX + config.skew)) * info.bytesPerPixel + byte]? := by
  obtain ⟨-, copied⟩ := (downSampleCopy_part_iff positive part).mp ran
  obtain ⟨copy, among, i, below, writes, reads⟩ :=
    config.exists_copyOf newStride y0 column inside
  rw [← writes, ← reads]
  exact getElem?_copies (config.inOrder_copies within) copied copy
    (List.mem_flatMap.mpr ⟨y0, List.mem_range.mpr row, among⟩) i below

end Paths

/-! ## When the conditions hold -/

section Sufficient

variable {info : BufferInfo} {config : ValidConfig info} {new : TargetInfo}

theorem unsignedBytes_le (bytes : 8 ∣ getBitsPerPixel info.format) :
    unsignedBytes info (info.stride * info.vstride) ≤ info.bytes := by
  have bits : getBitsPerPixel info.format = info.bytesPerPixel * 8 :=
    (Nat.div_mul_cancel bytes).symm
  rw [unsignedBytes, BufferInfo.bytes, bits, ← Nat.mul_assoc]
  calc info.stride * info.vstride * info.bytesPerPixel * 8 % 2 ^ 32 / 8
      ≤ info.stride * info.vstride * info.bytesPerPixel * 8 / 8 :=
        Nat.div_le_div_right (Nat.mod_le _ _)
    _ = info.stride * info.vstride * info.bytesPerPixel := Nat.mul_div_cancel _ (by omega)

theorem ValidConfig.corner_of_whole (whole : config.Whole) : config.left = 0 ∧ config.top = 0 := by
  obtain ⟨-, -, wide, high⟩ := whole
  have horizontal := config.horizontal
  have vertical := config.vertical
  rw [ValidConfig.getWidth] at wide
  rw [ValidConfig.getHeight] at high
  omega

theorem copiesPixels_of_whole (bytes : 8 ∣ getBitsPerPixel info.format) (whole : config.Whole)
    (fits : WholeFits info new) : CopiesPixels config new ⟨true, true⟩ := by
  obtain ⟨pixels, room, columns, rows, strides, covered⟩ := fits
  intro source target sourceSize targetSize
  have inside : (copyCells source target
      ⟨0, 0, unsignedBytes info (info.stride * info.vstride)⟩).isSome := by
    rw [copyCells_isSome_iff, Copy.Inside, sourceSize, targetSize, Nat.zero_add]
    exact ⟨unsignedBytes_le bytes, room⟩
  obtain ⟨filled, copied⟩ := Option.isSome_iff_exists.mp inside
  refine ⟨filled, (downSampleCopy_whole_iff whole).mpr ⟨pixels, copied⟩, ?_⟩
  intro x0 column y0 row
  obtain ⟨left, top⟩ := config.corner_of_whole whole
  obtain ⟨downSampleX, downSampleY, -, -⟩ := whole
  rw [left, top, downSampleX, downSampleY, Nat.mul_one, Nat.mul_one, Nat.zero_add, Nat.zero_add]
  refine ⟨Nat.lt_of_lt_of_le column columns, Nat.lt_of_lt_of_le row rows, ?_⟩
  intro byte within
  have same : new.stride * y0 = info.stride * y0 := by
    rcases strides with single | equal
    · rw [show y0 = 0 by omega, Nat.mul_zero, Nat.mul_zero]
    · rw [equal]
  have below : (new.stride * y0 + x0) * info.bytesPerPixel + byte <
      unsignedBytes info (info.stride * info.vstride) :=
    calc (new.stride * y0 + x0) * info.bytesPerPixel + byte
        < (new.stride * y0 + x0 + 1) * info.bytesPerPixel := byte_lt within _
      _ ≤ (new.stride * (new.height - 1) + new.width) * info.bytesPerPixel := by
        apply Nat.mul_le_mul_right
        rw [Nat.add_assoc]
        exact Nat.add_le_add (Nat.mul_le_mul_left _ (by omega)) column
      _ ≤ unsignedBytes info (info.stride * info.vstride) := covered
  rw [getElem?_copyCells copied, if_pos ⟨Nat.zero_le _, (Nat.zero_add _).symm ▸ below⟩]
  simp only [Nat.zero_add, Nat.sub_zero, same]

theorem copiesPixels_of_part (positive : 0 < info.bytesPerPixel) (part : ¬ config.Whole)
    (width : new.width = config.newWidth) (height : new.height = config.newHeight)
    (format : new.format = info.format) (straight : config.skew = 0)
    (fits : LoopsFit config new.stride) : CopiesPixels config new ⟨true, true⟩ := by
  intro source target sourceSize targetSize
  have within : config.newWidth ≤ new.stride := width ▸ new.within.1
  have targetBytes : new.bytes = new.stride * new.vstride * info.bytesPerPixel := by
    rw [BufferInfo.bytes, BufferInfo.bytesPerPixel, format, BufferInfo.bytesPerPixel]
  have inside : ∀ copy ∈ (List.range config.newHeight).flatMap (config.copiesOf new.stride),
      copy.Inside source.length target.length := by
    intro copy among
    obtain ⟨y0, isRow, isCopy⟩ := List.mem_flatMap.mp among
    have row := List.mem_range.mp isRow
    have below : y0 < new.vstride := by
      have := new.within.2
      omega
    rw [Copy.Inside, sourceSize, targetSize, targetBytes]
    constructor
    · exact config.reads_source straight row copy isCopy
    · calc copy.write + copy.size
          ≤ new.stride * (y0 + 1) * info.bytesPerPixel :=
            (config.writes_row within copy isCopy).2
        _ ≤ new.stride * new.vstride * info.bytesPerPixel :=
          Nat.mul_le_mul_right _ (Nat.mul_le_mul_left _ below)
  obtain ⟨filled, copied⟩ := Option.isSome_iff_exists.mp (copies_isSome_iff.mpr inside)
  have ran := (downSampleCopy_part_iff positive part).mpr ⟨fits, copied⟩
  refine ⟨filled, ran, ?_⟩
  rw [PixelLaw, width, height]
  intro x0 column y0 row
  refine ⟨Nat.lt_of_lt_of_le (config.column_lt column) config.horizontal.2,
    Nat.lt_of_lt_of_le (config.row_lt row) config.vertical.2, ?_⟩
  intro byte among
  rw [pixel_of_part positive part within ran column row among, straight, Nat.add_zero]

end Sufficient

/-! ## When a copy is right -/

section Necessary

variable {info : BufferInfo} {config : ValidConfig info} {new : TargetInfo}

/-- Bytes that are 0 but for one -/
def marked (size place : Nat) : List UInt8 :=
  (List.replicate size 0).set place 1

theorem getElem?_marked_eq_iff {size place i : Nat} :
    (marked size place)[i]? = some 1 ↔ i = place ∧ place < size := by
  rw [marked, List.getElem?_set]
  split
  case isTrue same =>
    rw [List.length_replicate]
    split
    case isTrue below => exact iff_of_true rfl ⟨same.symm, below⟩
    case isFalse above => exact iff_of_false nofun fun both => above both.2
  case isFalse other =>
    apply iff_of_false _ fun both => other both.1.symm
    intro isOne
    have among := List.mem_of_getElem? isOne
    cases List.eq_of_mem_replicate among

theorem getElem?_zeros_ne {size i : Nat} : (List.replicate size (0 : UInt8))[i]? ≠ some 1 := by
  intro isOne
  have among := List.mem_of_getElem? isOne
  cases List.eq_of_mem_replicate among

/-- The place of a byte of a pixel in the source -/
def ValidConfig.place (config : ValidConfig info) (x0 y0 byte : Nat) : Nat :=
  (info.stride * (config.top + y0 * config.downSampleY) +
    (config.left + x0 * config.downSampleX)) * info.bytesPerPixel + byte

/-- A byte that is marked in the source is marked in the pixel that it belongs to. -/
theorem CopiesPixels.exists_marked {locks : BufferLocks} (law : CopiesPixels config new locks)
    {x0 y0 byte : Nat} (column : x0 < new.width) (row : y0 < new.height)
    (within : byte < info.bytesPerPixel) :
    ∃ filled, downSampleCopy config new.stride locks
        (marked info.bytes (config.place x0 y0 byte)) (List.replicate new.bytes 0) = some filled ∧
      filled[(new.stride * y0 + x0) * info.bytesPerPixel + byte]? = some 1 := by
  obtain ⟨filled, ran, pixels⟩ := law (marked info.bytes (config.place x0 y0 byte))
    (List.replicate new.bytes 0) (by rw [marked, List.length_set, List.length_replicate])
    List.length_replicate
  refine ⟨filled, ran, ?_⟩
  obtain ⟨inColumns, inRows, same⟩ := pixels x0 column y0 row
  rw [same byte within]
  apply getElem?_marked_eq_iff.mpr
  refine ⟨rfl, ?_⟩
  have ends := cells_end_le
    (by omega : config.left + x0 * config.downSampleX + 1 ≤ info.stride) inRows info.bytesPerPixel
  rw [ValidConfig.place, BufferInfo.bytes]
  omega

theorem CopiesPixels.locked {locks : BufferLocks} (positive : 0 < info.bytesPerPixel)
    (law : CopiesPixels config new locks) : locks = ⟨true, true⟩ := by
  obtain ⟨filled, ran, isOne⟩ := law.exists_marked new.filled.1 new.filled.2.1 positive
  rw [downSampleCopy] at ran
  obtain ⟨source, target⟩ := locks
  cases source with
  | false =>
      rw [if_pos rfl, Option.some.injEq] at ran
      rw [← ran] at isOne
      exact absurd isOne getElem?_zeros_ne
  | true =>
      cases target with
      | true => rfl
      | false =>
          rw [if_neg nofun] at ran
          split at ran
          case isTrue => cases ran
          case isFalse =>
            rw [if_pos rfl, Option.some.injEq] at ran
            rw [← ran] at isOne
            exact absurd isOne getElem?_zeros_ne

theorem wholeFits_of_copiesPixels (positive : 0 < info.bytesPerPixel) (whole : config.Whole)
    (law : CopiesPixels config new ⟨true, true⟩) : WholeFits info new := by
  obtain ⟨wide, high, -, -⟩ := new.filled
  obtain ⟨left, top⟩ := config.corner_of_whole whole
  obtain ⟨downSampleX, downSampleY, -, -⟩ := id whole
  -- a byte of the buffer that is marked was copied, from the same place
  have marks : ∀ x0 < new.width, ∀ y0 < new.height, ∀ byte < info.bytesPerPixel,
      let i := (new.stride * y0 + x0) * info.bytesPerPixel + byte
      i < unsignedBytes info (info.stride * info.vstride) ∧
        i = (info.stride * y0 + x0) * info.bytesPerPixel + byte := by
    intro x0 column y0 row byte within
    obtain ⟨filled, ran, isOne⟩ := law.exists_marked column row within
    obtain ⟨-, copied⟩ := (downSampleCopy_whole_iff whole).mp ran
    rw [getElem?_copyCells copied] at isOne
    split at isOne
    case isTrue inside =>
      obtain ⟨same, -⟩ := getElem?_marked_eq_iff.mp isOne
      rw [ValidConfig.place, left, top, downSampleX, downSampleY] at same
      simp only [Nat.mul_one, Nat.zero_add, Nat.sub_zero] at same inside
      exact ⟨inside.2, same⟩
    case isFalse => exact absurd isOne getElem?_zeros_ne
  obtain ⟨filled, ran, pixels⟩ := law (List.replicate info.bytes 0) (List.replicate new.bytes 0)
    List.length_replicate List.length_replicate
  obtain ⟨small, copied⟩ := (downSampleCopy_whole_iff whole).mp ran
  have inside : Copy.Inside ⟨0, 0, unsignedBytes info (info.stride * info.vstride)⟩ _ _ :=
    copyCells_isSome_iff.mp (Option.isSome_of_eq_some copied)
  rw [Copy.Inside, List.length_replicate, List.length_replicate, Nat.zero_add] at inside
  obtain ⟨lastColumn, lastRow, -⟩ := pixels (new.width - 1) (by omega) (new.height - 1) (by omega)
  rw [left, downSampleX] at lastColumn
  rw [top, downSampleY] at lastRow
  refine ⟨small, inside.2, by omega, by omega, ?_, ?_⟩
  · by_cases single : new.height = 1
    · exact Or.inl single
    · right
      obtain ⟨-, same⟩ := marks 0 wide 1 (by omega) 0 positive
      simp only [Nat.mul_one, Nat.add_zero] at same
      exact Nat.eq_of_mul_eq_mul_right positive same
  · obtain ⟨below, -⟩ := marks (new.width - 1) (by omega) (new.height - 1) (by omega)
      (info.bytesPerPixel - 1) (by omega)
    have last : new.stride * (new.height - 1) + new.width =
        new.stride * (new.height - 1) + (new.width - 1) + 1 := by omega
    rw [last, Nat.succ_mul]
    omega

theorem partFits_of_copiesPixels (positive : 0 < info.bytesPerPixel) (part : ¬ config.Whole)
    (width : new.width = config.newWidth) (height : new.height = config.newHeight)
    (law : CopiesPixels config new ⟨true, true⟩) :
    config.skew = 0 ∧ LoopsFit config new.stride := by
  obtain ⟨wide, high, -, -⟩ := new.filled
  obtain ⟨filled, ran, isOne⟩ := law.exists_marked wide high positive
  refine ⟨?_, ((downSampleCopy_part_iff positive part).mp ran).1⟩
  -- the first pixel comes from the skewed column
  rw [pixel_of_part positive part (width ▸ new.within.1) ran (width ▸ wide) (height ▸ high)
    positive] at isOne
  obtain ⟨same, -⟩ := getElem?_marked_eq_iff.mp isOne
  rw [ValidConfig.place, Nat.add_zero, Nat.add_zero] at same
  have := Nat.eq_of_mul_eq_mul_right positive same
  omega

end Necessary

theorem ValidConfig.skew_eq_zero_iff {info : BufferInfo} (config : ValidConfig info) :
    config.skew = 0 ↔ config.downSampleX = 1 ∨ config.left = 0 := by
  rw [skew]
  split
  case isTrue one => exact iff_of_true rfl (Or.inl one)
  case isFalse several => exact (or_iff_right several).symm

/-- A down-sampled copy is right exactly when both buffers are locked and either the whole buffer
fits, or no column is skewed and no `int` overflows. -/
theorem pixelsCopied_iff (config : DownSampleConfig) (info : BufferInfo)
    (allocator : BufferAllocator) (dst : TargetInfo) (locks : BufferLocks)
    (supported : isSupportedFormat info.format) (bytes : 8 ∣ getBitsPerPixel info.format) :
    PixelsCopied config info allocator dst locks ↔ CopyFits config info allocator dst locks := by
  have positive := bytesPerPixel_pos supported bytes
  rw [PixelsCopied, CopyFits]
  generalize isNew : (config.valid info).target allocator dst = new
  constructor
  · intro law
    obtain rfl := law.locked positive
    refine ⟨rfl, rfl, ?_⟩
    split
    case isTrue whole => exact wholeFits_of_copiesPixels positive whole law
    case isFalse part =>
      obtain ⟨width, height⟩ := isNew ▸ (config.valid info).target_size allocator dst part
      rw [← ValidConfig.skew_eq_zero_iff]
      exact partFits_of_copiesPixels positive part width height law
  · rintro ⟨sourceLocked, targetLocked, fits⟩
    obtain rfl : locks = ⟨true, true⟩ := by
      cases locks
      exact congrArg₂ _ sourceLocked targetLocked
    split at fits
    case isTrue whole => exact copiesPixels_of_whole bytes whole fits
    case isFalse part =>
      obtain ⟨width, height⟩ := isNew ▸ (config.valid info).target_size allocator dst part
      have format := isNew ▸ (config.valid info).target_format allocator dst
      rw [← ValidConfig.skew_eq_zero_iff] at fits
      exact copiesPixels_of_part positive part width height format fits.1 fits.2

/-- An allocator whose buffers are no larger than they have to be -/
def exactAllocator : BufferAllocator where
  alloc width height wide high format :=
    { width, height, stride := width, vstride := height, format
      filled := ⟨wide, high, wide, high⟩
      within := ⟨Nat.le_refl _, Nat.le_refl _⟩ }
  width_eq _ _ _ _ _ := rfl
  height_eq _ _ _ _ _ := rfl
  format_eq _ _ _ _ _ := rfl

/-- A row of four pixels -/
def fourPixels : TargetInfo :=
  exactAllocator.alloc 4 1 (Nat.succ_pos 3) (Nat.succ_pos 0) .rgba8888

/-- Every other pixel of the row, from the first one on -/
theorem pixelsCopied_half :
    PixelsCopied ⟨2, 1, ⟨0, 0, 3, 1⟩⟩ fourPixels.toBufferInfo exactAllocator fourPixels
      ⟨true, true⟩ :=
  (pixelsCopied_iff _ _ _ _ _ (by decide) (by decide)).mpr (by decide +kernel)

/-- Every other pixel of the row, from the second one on: the left column is added twice, and the
last pixel is read behind the buffer. -/
theorem pixels_skewed :
    ¬ PixelsCopied ⟨2, 1, ⟨1, 0, 4, 1⟩⟩ fourPixels.toBufferInfo exactAllocator fourPixels
      ⟨true, true⟩ := by
  intro law
  obtain ⟨filled, ran, -⟩ := law (List.replicate 16 0) (List.replicate 8 0) rfl rfl
  have outside : downSampleCopy
      (DownSampleConfig.valid ⟨2, 1, ⟨1, 0, 4, 1⟩⟩ fourPixels.toBufferInfo) 2 ⟨true, true⟩
      (List.replicate 16 0) (List.replicate 8 0) = none := by
    decide +kernel
  exact absurd ran (outside ▸ nofun)

end X3Hal.Gui
