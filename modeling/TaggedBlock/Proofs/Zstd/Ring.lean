import TaggedBlock.Proofs.Bytes
import TaggedBlock.Zstd.Block

set_option autoImplicit false

namespace TaggedBlock.Zstd

theorem copy_back_apart (out : Array UInt8) (distance length : Nat)
    (within : 0 < distance ∧ distance ≤ out.size) (apart : length ≤ distance) :
    copyBack out distance length within =
      out ++ (List.range' (out.size - distance) length).map fun index => out[index]?.getD 0 := by
  induction length generalizing out with
  | zero =>
      rw [List.range'_zero, List.map_nil, Array.appendList_nil]
      rfl
  | succ length ih =>
      have inside : out.size - distance < out.size := by omega
      have next : (out.push out[out.size - distance]).size - distance = out.size - distance + 1 := by
        rw [Array.size_push]
        omega
      have same : ∀ index ∈ List.range' (out.size - distance + 1) length,
          ((out.push out[out.size - distance])[index]?.getD 0) = out[index]?.getD 0 := by
        intro index member
        have bounds := List.mem_range'_1.mp member
        rw [Array.getElem?_push_lt (by omega), Array.getElem?_eq_getElem (by omega)]
      rw [copyBack, ih _ _ (Nat.le_of_succ_le apart), next, List.map_congr_left same,
        List.range'_succ, List.map_cons, Array.getElem?_eq_getElem inside, Option.getD_some,
        Array.appendList_cons]

namespace Ring

variable {ring : Ring} {out grown : Array UInt8} {distance length : Nat}

theorem size_of_copy (copied : ring.copy? out distance length = some grown) :
    grown.size = out.size + length := by
  unfold copy? at copied
  split at copied
  · split at copied
    · cases copied
      rw [size_copy_back, size_append, reread, List.length_map, List.length_range']
      omega
    · cases copied
  · cases copied

-- The buffer has all of the last bytes of the output that a window and a block ask for.
structure Keeps (ring : Ring) (window bound base : Nat) : Prop where
  started : ring.start ≤ base
  history : ring.before + window + bound ≤ ring.start ∨ (ring.start = 0 ∧ ring.before = 0)

def lately (window bound base : Nat) : Ring := ⟨window + bound, base - window, base - window⟩

theorem copy_lately {window bound base : Nat}
    (copied : (lately window bound base).copy? out distance length = some grown) :
    ∃ within, distance ≤ out.size - (base - window) ∧
      grown = copyBack out distance length within := by
  unfold copy? at copied
  split at copied
  · rename_i within
    split at copied
    · rename_i bounds
      have near : distance ≤ out.size - (base - window) := bounds.1
      have none : min length ((base - window) - (out.size - distance)) = 0 := by omega
      cases copied
      refine ⟨within, near, ?_⟩
      simp only [lately, none, reread, List.range'_zero, List.map_nil, Nat.sub_zero]
      congr 1
    · cases copied
  · cases copied

-- Nothing has been written over the bytes of the turn before that a copy may still ask for.
theorem reread_eq {window bound base first count : Nat} (keeps : ring.Keeps window bound base)
    (room : out.size ≤ base + bound) (near : base - window ≤ first) :
    ring.reread out first count = (List.range' first count).map fun index => out[index]?.getD 0 := by
  refine List.map_congr_left fun index member => ?_
  have bounds := (List.mem_range'_1.mp member).1
  have started := keeps.started
  rcases keeps.history with turned | fresh
  · have kept : ¬ index - ring.before < out.size - ring.start := by omega
    simp only [if_neg kept]
  · simp only [fresh.1, fresh.2, Nat.sub_zero, Nat.zero_add, ite_self]

theorem copy_of_lately {window bound base : Nat} (keeps : ring.Keeps window bound base)
    (begun : base ≤ out.size) (room : grown.size ≤ base + bound) (fits : grown.size ≤ ring.limit)
    (copied : (lately window bound base).copy? out distance length = some grown) :
    ring.copy? out distance length = some grown := by
  have size := size_of_copy copied
  obtain ⟨within, near, rfl⟩ := copy_lately copied
  have started := keeps.started
  have reach : distance ≤ out.size - ring.before := by
    rcases keeps.history with turned | fresh
    · omega
    · omega
  have enough : out.size + length ≤ ring.limit := by omega
  unfold copy?
  rw [dif_pos within, if_pos ⟨reach, enough⟩]
  have early : min length (ring.start - (out.size - distance)) ≤ distance := by omega
  have total : min length (ring.start - (out.size - distance)) +
      (length - min length (ring.start - (out.size - distance))) = length := by omega
  have kept := copy_back_apart out distance _ within early
  rw [← reread_eq keeps (by omega) (by omega)] at kept
  simp only [← kept, copy_back_add, total]

end Ring

section Covered

variable {ring : Ring} {window bound base : Nat} (keeps : ring.Keeps window bound base)
include keeps

namespace Sequence

variable {progress final : Progress} {states : States} {bits rest : List Bool}

omit keeps in
theorem Progress.size_follow {other : Ring} {literals length distance : Nat}
    (followed : progress.follow? other literals length distance = some final) :
    progress.out.size ≤ final.out.size := by
  simp only [follow?, bind, Option.bind_eq_some_iff] at followed
  obtain ⟨⟨fresh, rest⟩, split, grown, copied, same⟩ := followed
  cases same
  have size := Ring.size_of_copy copied
  rw [size_append] at size
  simp only
  omega

theorem Progress.follow_of_lately {literals length distance : Nat}
    (begun : base ≤ progress.out.size) (room : final.out.size ≤ base + bound)
    (fits : final.out.size ≤ ring.limit)
    (followed : progress.follow? (.lately window bound base) literals length distance = some final) :
    progress.follow? ring literals length distance = some final := by
  simp only [follow?, bind, Option.bind_eq_some_iff] at followed ⊢
  obtain ⟨⟨fresh, rest⟩, split, grown, copied, same⟩ := followed
  cases same
  refine ⟨(fresh, rest), split, grown, Ring.copy_of_lately keeps ?_ room fits copied, rfl⟩
  rw [size_append]
  omega

omit keeps in
theorem size_run {tables : Tables} {other : Ring} {count : Nat}
    (result : run? tables other count states bits progress = some (final, rest)) :
    progress.out.size ≤ final.out.size := by
  induction count generalizing states bits progress with
  | zero =>
      cases result
      exact Nat.le_refl _
  | succ count ih =>
      simp only [run?, bind, Option.bind_eq_some_iff] at result
      obtain ⟨_, _, _, _, _, _, middle, followed, result⟩ := result
      have grown := Progress.size_follow followed
      split at result
      · cases result
        exact grown
      · obtain ⟨next, _, result⟩ := Option.bind_eq_some_iff.mp result
        exact Nat.le_trans grown (ih result)

theorem run_of_lately {tables : Tables} {count : Nat} (begun : base ≤ progress.out.size)
    (room : final.out.size ≤ base + bound) (fits : final.out.size ≤ ring.limit)
    (result : run? tables (.lately window bound base) count states bits progress =
      some (final, rest)) : run? tables ring count states bits progress = some (final, rest) := by
  induction count generalizing states bits progress with
  | zero => exact result
  | succ count ih =>
      simp only [run?, bind, Option.bind_eq_some_iff] at result ⊢
      obtain ⟨first, distance, second, length, third, literals, middle, followed, result⟩ := result
      refine ⟨first, distance, second, length, third, literals, middle, ?_⟩
      have grown := Progress.size_follow followed
      split at result
      · rename_i last
        cases result
        exact ⟨Progress.follow_of_lately keeps begun room fits followed, if_pos last⟩
      · rename_i more
        obtain ⟨next, stepped, result⟩ := Option.bind_eq_some_iff.mp result
        have later := size_run result
        refine ⟨Progress.follow_of_lately keeps begun (by omega) (by omega) followed, ?_⟩
        rw [if_neg more]
        exact Option.bind_eq_some_iff.mpr ⟨next, stepped, ih (by omega) result⟩

end Sequence

namespace Decoding

variable {inheritance later : Inheritance} {out grown : Array UInt8} {other : Ring}

omit keeps in
theorem block_eq_some_iff {decoding next : Decoding} {greatest : Nat} {block : BlockHeader}
    {content : Bytes} :
    decoding.block? greatest block content = some next ↔
      decoding.unbounded? greatest block content = some next ∧
        next.out.size ≤ decoding.ring.limit := by
  unfold block?
  cases decoding.unbounded? greatest block content with
  | none => exact iff_of_false (fun same => nomatch same) fun yielded => nomatch yielded.1
  | some found =>
      simp only [Option.some.injEq]
      constructor
      · intro decoded
        split at decoded
        · rename_i fits
          cases decoded
          exact ⟨rfl, fits⟩
        · cases decoded
      · rintro ⟨rfl, fits⟩
        exact if_pos fits

theorem coded_of_lately {greatest : Nat} {content : Bytes} (begun : base ≤ out.size)
    (room : grown.size ≤ base + bound) (fits : grown.size ≤ ring.limit)
    (decoded : Decoding.coded? ⟨.lately window bound base, inheritance, out⟩ greatest content =
      some ⟨other, later, grown⟩) :
    Decoding.coded? ⟨ring, inheritance, out⟩ greatest content = some ⟨ring, later, grown⟩ := by
  unfold coded? at decoded ⊢
  split at decoded
  · cases decoded
  · rename_i sized
    simp only [bind, Option.bind_eq_some_iff] at decoded
    obtain ⟨literals, found, count, counted, decoded⟩ := decoded
    rw [if_neg sized]
    simp only [bind, Option.bind_eq_some_iff]
    refine ⟨literals, found, count, counted, ?_⟩
    split at decoded
    · rename_i none
      rw [if_pos none]
      split at decoded
      · rename_i ends
        cases decoded
        exact if_pos ends
      · cases decoded
    · rename_i some
      simp only [Option.bind_eq_some_iff] at decoded
      obtain ⟨tables, read, bits, backward, states, started, final, ran, decoded⟩ := decoded
      rw [if_neg some]
      simp only [Option.bind_eq_some_iff]
      split at decoded
      · rename_i ends
        cases decoded
        rw [size_append] at room fits
        have again := Sequence.run_of_lately keeps begun
          (Nat.le_trans (Nat.le_add_right _ _) room) (Nat.le_trans (Nat.le_add_right _ _) fits) ran
        exact ⟨tables, read, bits, backward, states, started, final, again, if_pos ends⟩
      · cases decoded

theorem block_of_lately {greatest : Nat} {block : BlockHeader} {content : Bytes}
    (begun : base ≤ out.size) (room : grown.size ≤ base + bound) (fits : grown.size ≤ ring.limit)
    (decoded : Decoding.block? ⟨.lately window bound base, inheritance, out⟩ greatest block content =
      some ⟨other, later, grown⟩) :
    Decoding.block? ⟨ring, inheritance, out⟩ greatest block content =
      some ⟨ring, later, grown⟩ := by
  have yielded := (block_eq_some_iff.mp decoded).1
  refine block_eq_some_iff.mpr ⟨?_, fits⟩
  unfold unbounded? at yielded ⊢
  split at yielded
  · cases yielded
    rfl
  · split at yielded
    · cases yielded
      rw [push_copies_replicate, size_append, List.length_replicate] at fits
      exact if_pos fits
    · cases yielded
  · exact coded_of_lately keeps begun room fits yielded
  · cases yielded

end Decoding

end Covered

end TaggedBlock.Zstd
