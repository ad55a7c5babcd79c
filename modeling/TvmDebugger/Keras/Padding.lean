import Mathlib.Algebra.Order.Ring.Int

/-! `_get_pad_pair` of the Keras frontend, which the conversions of convolution, separable
convolution and pooling call for `padding='same'`: they insert its padding as a separate pad
operator and run the operator itself with no padding. A window of the kernel, moved by the
stride, then fits exactly `ceil(input / stride)` times in the padded input, as `'same'`
asks; the padding is the least that fits them, and its odd unit goes after the input.
-/

namespace TvmDebugger.Keras

/-- `_get_pad_pair(input1d, kernel1d, stride1d)`, with Python's floor division `//` and
`np.maximum(x, 0)` on integers. The two-element list it returns is a pair, since every
caller unpacks it into `pad_t, pad_b` or `pad_l, pad_r`. -/
def getPadPair (input1d kernel1d stride1d : Int) : Int × Int :=
  let out1d := (input1d + stride1d - 1).fdiv stride1d
  let pad := max ((out1d - 1) * stride1d + kernel1d - input1d) 0
  let padBefore := pad.fdiv 2
  let padAfter := pad - padBefore
  (padBefore, padAfter)

/-- `count` is `ceil(input / stride)`: the least count of strides that reaches `input`. -/
def IsCeilDiv (input stride count : Int) : Prop :=
  (count - 1) * stride < input ∧ input ≤ count * stride

/-- A window of `kernel` moved by `stride` fits `count` times in `length`: the last one
ends inside, and one more would not. -/
def WindowsFit (length kernel stride count : Int) : Prop :=
  (count - 1) * stride + kernel ≤ length ∧ length < count * stride + kernel

/-- `(input + stride - 1) // stride` is `ceil(input / stride)` for a positive stride. -/
theorem isCeilDiv_fdiv {input stride : Int} (stride_pos : 0 < stride) :
    IsCeilDiv input stride ((input + stride - 1).fdiv stride) := by
  rw [Int.fdiv_eq_ediv _ (Int.le_of_lt stride_pos)]
  have split := Int.ediv_add_emod (input + stride - 1) stride
  have := @Int.emod_nonneg (input + stride - 1) stride (by omega)
  have := Int.emod_lt_of_pos (input + stride - 1) stride_pos
  unfold IsCeilDiv
  rw [Int.sub_mul, Int.one_mul, Int.mul_comm (_ / stride)]
  omega

/-- The padding `padding='same'` inserts, for a positive kernel and stride: with it the
window fits `ceil(input / stride)` times, and with any less padding it does not; the
padding is split in halves, the odd unit after the input. -/
theorem getPadPair_same {input1d kernel1d stride1d padBefore padAfter : Int}
    (kernel_pos : 0 < kernel1d) (stride_pos : 0 < stride1d)
    (pads : getPadPair input1d kernel1d stride1d = (padBefore, padAfter)) :
    ∃ count, IsCeilDiv input1d stride1d count ∧
      WindowsFit (input1d + padBefore + padAfter) kernel1d stride1d count ∧
      (∀ pad, 0 ≤ pad → WindowsFit (input1d + pad) kernel1d stride1d count →
        padBefore + padAfter ≤ pad) ∧
      0 ≤ padBefore ∧ padBefore ≤ padAfter ∧ padAfter ≤ padBefore + 1 := by
  simp only [getPadPair, Int.fdiv_eq_ediv _ (by omega : (0 : Int) ≤ 2), Prod.mk.injEq] at pads
  obtain ⟨rfl, rfl⟩ := pads
  have ceil : IsCeilDiv input1d stride1d _ := isCeilDiv_fdiv stride_pos
  refine ⟨_, ceil, ?_, fun pad _ fit => ?_, by omega⟩ <;>
    simp only [IsCeilDiv, WindowsFit, Int.sub_mul, Int.one_mul] at * <;> omega

/-- A kernel of 4 with stride 2 over 5 inputs: 3 windows, with one unit of padding before
and two after. -/
theorem getPadPair_same_five_four_two :
    getPadPair 5 4 2 = (1, 2) ∧ ∃ count, IsCeilDiv 5 2 count ∧ WindowsFit (5 + 1 + 2) 4 2 count ∧
      (∀ pad, 0 ≤ pad → WindowsFit (5 + pad) 4 2 count → 1 + 2 ≤ pad) ∧
      0 ≤ (1 : Int) ∧ (1 : Int) ≤ 2 ∧ (2 : Int) ≤ 1 + 1 :=
  have pads : getPadPair 5 4 2 = (1, 2) := by decide
  ⟨pads, getPadPair_same (by decide) (by decide) pads⟩

end TvmDebugger.Keras
