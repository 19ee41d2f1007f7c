import McProtocol.Spans
import McProtocol.Typed.Bodies

/-! # Lists that are validated in one mode and iterated in another

A decoder walks over the entries of a list in the mode of its reader and keeps their bytes. The
iterator reads these again, but always in strict mode. Compat mode takes more byte strings for an
entry than strict mode does, and that alone decides whether the iterator gets through.
-/

namespace McProtocol

open Iteration (Drains)

/-- An iterator over entries that are counted, and what it knows of their layout. -/
structure McCountedIterator (κ : Type) where
  reader : McReader
  remaining : Nat
  layout : κ

namespace McCountedIterator

variable {κ α : Type}

def next (read : κ → ReadM α) (iterator : McCountedIterator κ) :
    Option α × McCountedIterator κ :=
  let (entry, reader, remaining) :=
    nextCounted (read iterator.layout).run iterator.reader iterator.remaining
  (entry, ⟨reader, remaining, iterator.layout⟩)

/-- The calls return as many entries as are announced, then no more, at the end of the slice. -/
def Drained (next : McCountedIterator κ → Option α × McCountedIterator κ)
    (iterator : McCountedIterator κ) : Prop :=
  ∃ entries last, Drains next iterator entries last ∧ entries.length = iterator.remaining ∧
    last.reader.failed = false ∧ mcReaderRemaining last.reader = 0

/-- The iterator stands in front of parts of a language. -/
structure Ahead (iterator : McCountedIterator κ) (layout : κ) (L : List UInt8 → Prop)
    (parts : List (List UInt8)) : Prop where
  layout_eq : iterator.layout = layout
  reader : iterator.reader.Ahead parts
  remaining : iterator.remaining = parts.length
  each : ∀ part ∈ parts, L part

section calls

variable {read : κ → ReadM α} {iterator after : McCountedIterator κ} {layout : κ}
variable {S C : List UInt8 → Prop} {part : List UInt8} {rest parts : List (List UInt8)} {entry : α}

theorem Ahead.behind (ahead : iterator.Ahead layout C (part :: rest)) :
    (⟨iterator.reader.advance part.length, rest.length, iterator.layout⟩ :
      McCountedIterator κ).Ahead layout C rest :=
  ⟨ahead.layout_eq, ahead.reader.advance, rfl,
    fun other mem => ahead.each other (List.mem_cons_of_mem part mem)⟩

theorem next_stop (ahead : iterator.Ahead layout C []) : iterator.next read = (none, iterator) := by
  obtain ⟨reader, remaining, layout⟩ := iterator
  obtain rfl : remaining = 0 := ahead.remaining
  rfl

theorem next_part (strict : Spans .strict (read layout).run S)
    (ahead : iterator.Ahead layout C (part :: rest)) (isStrict : S part) :
    ∃ entry, iterator.next read =
      (some entry, ⟨iterator.reader.advance part.length, rest.length, iterator.layout⟩) := by
  obtain ⟨entry, ran⟩ := strict.complete isStrict ahead.reader.strict ahead.reader.before
  have run := nextCounted_advance ahead.reader ran
  rw [show rest.length + 1 = iterator.remaining from ahead.remaining.symm] at run
  refine ⟨entry, ?_⟩
  rw [next, ahead.layout_eq, run]

/-- A call that returns has read the part in front. -/
theorem next_some (strict : Spans .strict (read layout).run S)
    (compat : Spans .vanillaCompat (read layout).run C)
    (ahead : iterator.Ahead layout C (part :: rest))
    (run : iterator.next read = (some entry, after)) : S part ∧ after.Ahead layout C rest := by
  have isStrict : S part := by
    rcases counted : nextCounted (read iterator.layout).run iterator.reader iterator.remaining
      with ⟨found, reader, left⟩
    simp only [next, counted, Prod.mk.injEq] at run
    obtain ⟨rfl, rfl⟩ := run
    obtain ⟨-, ran⟩ := nextCounted_eq_some counted
    rw [ahead.layout_eq] at ran
    obtain ⟨bytes, tail, split, isStrict, -⟩ :=
      strict.sound ahead.reader.strict ahead.reader.before ran
    -- strict mode does not end an entry anywhere else
    obtain ⟨rfl, -⟩ := compat.unambiguous (ahead.each part List.mem_cons_self)
      (strict.relaxed compat isStrict) split
    exact isStrict
  obtain ⟨found, again⟩ := next_part strict ahead isStrict
  rw [run] at again
  cases again
  exact ⟨isStrict, ahead.behind⟩

/-- The iterator gets through what compat mode has accepted exactly where strict mode accepts each
entry. -/
theorem drained_iff (strict : Spans .strict (read layout).run S)
    (compat : Spans .vanillaCompat (read layout).run C) (each : ∀ part ∈ parts, C part) :
    (⟨sliceReader parts.flatten, parts.length, layout⟩ : McCountedIterator κ).Drained (next read) ↔
      ∀ part ∈ parts, S part := by
  have ahead : (⟨sliceReader parts.flatten, parts.length, layout⟩ : McCountedIterator κ).Ahead
      layout C parts := ⟨rfl, sliceReader_ahead parts, rfl, each⟩
  constructor
  · rintro ⟨entries, last, ⟨yields, -⟩, length, -⟩
    change entries.length = parts.length at length
    obtain ⟨front, back, split, all, -⟩ := yields.parts
      (fun parts (iterator : McCountedIterator κ) => iterator.Ahead layout C parts)
      (fun part _ => S part)
      (fun _ _ _ _ _ ahead run => next_some strict compat ahead run)
      (fun _ ahead => congrArg Prod.fst (next_stop ahead)) ahead
    -- as many entries as parts leave no part behind
    have whole : back = [] := by
      have lengths := congrArg List.length split
      rw [List.length_append, all.length_eq, length] at lengths
      exact List.length_eq_zero_iff.mp (by omega)
    rw [split, whole, List.append_nil]
    intro part mem
    obtain ⟨_, -, isStrict⟩ := Iteration.exists_item all mem
    exact isStrict
  · intro readable
    obtain ⟨entries, last, yields, all, stop, -⟩ := Iteration.yields_of_parts
      (fun parts (iterator : McCountedIterator κ) => iterator.Ahead layout C parts ∧
        ∀ part ∈ parts, S part)
      (fun _ _ => True)
      (fun part rest iterator ⟨ahead, readable⟩ => by
        obtain ⟨entry, run⟩ := next_part strict ahead (readable part List.mem_cons_self)
        exact ⟨entry, _, run, trivial, ahead.behind,
          fun other mem => readable other (List.mem_cons_of_mem part mem)⟩)
      ⟨ahead, readable⟩
    exact ⟨entries, last, ⟨yields, next_stop stop⟩, all.length_eq.symm, stop.reader.before.clean,
      stop.reader.finished⟩

end calls

end McCountedIterator

/-- A header, the entries that it announces, and whatever follows them. -/
def HasEntries {κ : Type} (H : κ → List UInt8 → Prop) (count : κ → Nat)
    (L : κ → List UInt8 → Prop) (body : List UInt8) : Prop :=
  ∃ header head, ∃ parts : List (List UInt8), ∃ rest, H header head ∧
    parts.length = count header ∧ (∀ part ∈ parts, L header part) ∧ body = head ++ (parts.flatten ++ rest)

section accepted

variable {κ α β γ : Type} {mode : McDecodeMode} {reader after : McReader} {body : List UInt8}
variable {H : κ → List UInt8 → Prop} {count : κ → Nat} {L : κ → List UInt8 → Prop}
variable {header : Prog McReader κ} {loop : κ → Prog McReader α} {result : κ → α → List UInt8 → β}
variable {b : β} {P : κ → α → Prop}

/-- A decoder that reads a header and then walks over the entries. -/
theorem listed_sound (announces : Accepts mode header H)
    (walks : ∀ k, Spans mode (loop k) (Parts (L k) (count k)))
    (returns : ∀ k reader a after, loop k reader = (some a, after) → P k a) (moded : reader.mode = mode)
    (before : reader.Before body)
    (run : (header >>= fun k => mcReaderOffset.run >>= fun start => loop k >>= fun a =>
      (readSince start).run >>= fun slice => Pure.pure (result k a slice)) reader =
        (some b, after)) :
    ∃ k head, ∃ parts : List (List UInt8), ∃ rest a, H k head ∧ parts.length = count k ∧ (∀ part ∈ parts, L k part) ∧
      body = head ++ (parts.flatten ++ rest) ∧ b = result k a parts.flatten ∧ P k a := by
  obtain ⟨k, middle, ranHeader, ran⟩ := Prog.bind_eq_some run
  obtain ⟨head, rest, rfl, isHeader, rfl⟩ := announces.sound moded before ranHeader
  have behind := before.advance
  obtain ⟨a, end_, walked, returned⟩ := Prog.bind_eq_some
    (show (loop k >>= fun a => (readSince (reader.advance head.length).offset).run >>= fun slice =>
      Pure.pure (result k a slice)) (reader.advance head.length) = (some b, after) from ran)
  obtain ⟨_, tail, rfl, ⟨parts, length, each, rfl⟩, rfl⟩ :=
    (walks k).sound (show (reader.advance head.length).mode = mode from moded) behind walked
  have returned : (some (result k a (((reader.advance head.length).advance
      parts.flatten.length).since (reader.advance head.length).offset)),
      (reader.advance head.length).advance parts.flatten.length) = (some b, after) := returned
  rw [behind.since] at returned
  exact ⟨k, head, parts, tail, a, isHeader, length, each, rfl,
    (Option.some.inj (congrArg Prod.fst returned)).symm, returns k _ a _ walked⟩

/-- Which entries the body has is not a matter of choice. -/
theorem hasEntries_iff {S : κ → List UInt8 → Prop} {read : κ → ReadM γ}
    (announces : Accepts .vanillaCompat header H)
    (strict : ∀ k, Spans .strict (read k).run (S k))
    (compat : ∀ k, Spans .vanillaCompat (read k).run (L k)) {k : κ} {head rest : List UInt8}
    {parts : List (List UInt8)} (isHeader : H k head) (length : parts.length = count k)
    (each : ∀ part ∈ parts, L k part) :
    HasEntries H count S (head ++ (parts.flatten ++ rest)) ↔ ∀ part ∈ parts, S k part := by
  constructor
  · rintro ⟨k', head', parts', rest', isHeader', length', each', same⟩
    obtain ⟨rfl, rfl, behind⟩ := announces.unambiguous isHeader isHeader' same
    have relaxed := fun part mem => (strict k).relaxed (compat k) (each' part mem)
    obtain rfl := (compat k).parts_unambiguous each relaxed (length.trans length'.symm) behind
    exact each'
  · intro isStrict
    exact ⟨k, head, parts, rest, isHeader, length, isStrict, rfl⟩

end accepted

end McProtocol
