import McProtocol.Core

/-! # zlib

The compression library is outside the repository: a parameter of the model, with
the calls the repository makes. Its documented behaviour is stated as hypotheses
where a result rests on it.
-/

namespace McProtocol

/-- `Z_OK`, `Z_STREAM_END`, and every other result. -/
inductive ZStatus where
  | ok
  | streamEnd
  | error
  deriving Repr, DecidableEq

inductive ZFlush where
  | noFlush
  | finish
  deriving Repr, DecidableEq

/-- One `inflate` call: its result, what it wrote, and the input it left. -/
structure ZStep (State : Type) where
  status : ZStatus
  output : List UInt8
  rest : List UInt8
  state : State

structure Zlib where
  State : Type
  /-- By window bits. -/
  inflateInit2 : Nat → Option State
  /-- On the input that is left, with room for that many bytes. -/
  inflate : State → List UInt8 → Nat → ZFlush → ZStep State
  compressBound : Nat → Nat
  /-- Into a buffer of that capacity. -/
  compress2 : List UInt8 → Nat → Option (List UInt8)

namespace Zlib

def maxWbits : Nat := 15

/-- `inflateInit`, and one `inflate` of the whole input with `Z_FINISH`. -/
def inflateOnce (zlib : Zlib) (compressed : List UInt8) (bound : Nat) : Option (ZStep zlib.State) :=
  (zlib.inflateInit2 maxWbits).map fun state => zlib.inflate state compressed bound .finish

/-- Inflating gives `plain`, and uses every byte. -/
def Deflates (zlib : Zlib) (plain compressed : List UInt8) : Prop :=
  ∃ step, zlib.inflateOnce compressed plain.length = some step ∧ step.status = .streamEnd ∧
    step.output = plain ∧ step.rest = []

/-- What `compress2` writes inflates to its input. -/
structure RoundTrips (zlib : Zlib) : Prop where
  bounded : ∀ plain capacity compressed, zlib.compress2 plain capacity = some compressed →
    compressed.length ≤ capacity
  inverse : ∀ plain capacity compressed, zlib.compress2 plain capacity = some compressed →
    zlib.Deflates plain compressed

/-- `compressBound` as it is documented to be. -/
def Bounds (zlib : Zlib) : Prop :=
  ∀ size, zlib.compressBound size ≤ size + size / 2 ^ 12 + size / 2 ^ 14 + size / 2 ^ 25 + 13

/-- A library that knows a single stream. -/
def knowing (plain compressed : List UInt8) : Zlib where
  State := Unit
  inflateInit2 _ := some ()
  inflate _ input room _ :=
    if compressed.isPrefixOf input ∧ plain.length ≤ room then
      ⟨.streamEnd, plain, input.drop compressed.length, ()⟩
    else ⟨.error, [], input, ()⟩
  compressBound size := size + size / 2 ^ 12 + size / 2 ^ 14 + size / 2 ^ 25 + 13
  compress2 input capacity :=
    if input = plain ∧ compressed.length ≤ capacity then some compressed else none

theorem knowing_roundTrips (plain compressed : List UInt8) :
    (knowing plain compressed).RoundTrips where
  bounded := by
    intro input capacity output written
    simp only [knowing] at written
    split_ifs at written with known
    cases written
    exact known.2
  inverse := by
    intro input capacity output written
    simp only [knowing] at written
    split_ifs at written with known
    cases written
    rw [known.1]
    exact ⟨⟨.streamEnd, plain, [], ()⟩, by simp [inflateOnce, knowing], rfl, rfl, rfl⟩

theorem knowing_bounds (plain compressed : List UInt8) : (knowing plain compressed).Bounds :=
  fun _ => Nat.le_refl _

end Zlib

end McProtocol
