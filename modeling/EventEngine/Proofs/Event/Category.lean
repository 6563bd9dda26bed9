import EventEngine.Event.TypeId
import Mathlib

/-! Names and their categories. Every round of the hash is reversible, so bytes that two names end
with in common have no part in whether their categories agree; names that differ in a single byte
never share one. -/
namespace EventEngine

namespace Hash

/-! ### Rounds -/

variable {k : UInt32}

/-- Adding a shifted copy is multiplying by an odd number. -/
theorem toNat_add_shiftLeft (x k : UInt32) :
    (x + (x <<< k)).toNat = x.toNat * (2 ^ (k.toNat % 32) + 1) % 2 ^ 32 := by
  rw [UInt32.toNat_add, UInt32.toNat_shiftLeft, Nat.shiftLeft_eq, Nat.add_mod_mod, Nat.mul_succ,
    Nat.add_comm]

theorem add_shiftLeft_injective (moves : k.toNat % 32 ≠ 0) :
    Function.Injective fun x : UInt32 => x + (x <<< k) := by
  intro x y same
  have odd : Nat.gcd (2 ^ 32) (2 ^ (k.toNat % 32) + 1) = 1 := by
    refine Nat.Coprime.pow_left 32 (Nat.coprime_two_left.mpr ?_)
    exact Even.add_one ((Nat.even_pow' moves).mpr even_two)
  have product : x.toNat * (2 ^ (k.toNat % 32) + 1) ≡ y.toNat * (2 ^ (k.toNat % 32) + 1)
      [MOD 2 ^ 32] := by
    have words := congrArg UInt32.toNat same
    rwa [toNat_add_shiftLeft, toNat_add_shiftLeft] at words
  have factor := Nat.ModEq.cancel_right_of_coprime odd product
  exact UInt32.toNat_inj.mp (factor.eq_of_lt_of_lt x.toNat_lt y.toNat_lt)

/-- No word but zero is its own shifted copy. -/
theorem eq_zero_of_shiftRight {d : UInt32} (moves : k.toNat % 32 ≠ 0) (same : d >>> k = d) :
    d = 0 := by
  have shrinks := congrArg UInt32.toNat same
  rw [UInt32.toNat_shiftRight, Nat.shiftRight_eq_div_pow] at shrinks
  rcases Nat.eq_zero_or_pos d.toNat with zero | positive
  · exact UInt32.toNat_inj.mp zero
  · have smaller := Nat.div_lt_self positive (Nat.one_lt_two_pow moves)
    exact absurd shrinks (Nat.ne_of_lt smaller)

theorem xor_shiftRight_injective (moves : k.toNat % 32 ≠ 0) :
    Function.Injective fun x : UInt32 => x ^^^ (x >>> k) := by
  intro x y same
  -- where two words fold to the same, their difference is its own shifted copy
  have folded : (x ^^^ y) ^^^ ((x ^^^ y) >>> k) = 0 := by
    rw [UInt32.shiftRight_xor, UInt32.xor_assoc, ← UInt32.xor_assoc y, UInt32.xor_comm y,
      UInt32.xor_assoc (x >>> k), ← UInt32.xor_assoc, UInt32.xor_eq_zero_iff]
    exact same
  exact UInt32.xor_eq_zero_iff.mp
    (eq_zero_of_shiftRight moves (UInt32.xor_eq_zero_iff.mp folded).symm)

/-! ### Bytes -/

theorem mix_eq_mix_iff {hash hash' : UInt32} {a b : UInt8} :
    mix hash a = mix hash' b ↔ hash + a.toUInt32 = hash' + b.toUInt32 := by
  refine ⟨fun same => ?_, fun same => by simp only [mix, same]⟩
  exact add_shiftLeft_injective (k := 10) (by decide)
    (xor_shiftRight_injective (k := 6) (by decide) same)

theorem mix_left_inj {hash hash' : UInt32} (byte : UInt8) :
    mix hash byte = mix hash' byte ↔ hash = hash' := by
  rw [mix_eq_mix_iff, UInt32.add_left_inj]

theorem mix_right_inj (hash : UInt32) {a b : UInt8} : mix hash a = mix hash b ↔ a = b := by
  rw [mix_eq_mix_iff, UInt32.add_right_inj, UInt8.toUInt32_inj]

theorem finish_inj {hash hash' : UInt32} : finish hash = finish hash' ↔ hash = hash' := by
  refine ⟨fun same => ?_, congrArg finish⟩
  exact add_shiftLeft_injective (k := 3) (by decide)
    (xor_shiftRight_injective (k := 11) (by decide)
      (add_shiftLeft_injective (k := 15) (by decide) same))

/-- Bytes that are mixed in afterwards keep different words apart. -/
theorem foldl_mix_inj {hash hash' : UInt32} (bytes : List UInt8) :
    bytes.foldl mix hash = bytes.foldl mix hash' ↔ hash = hash' := by
  induction bytes generalizing hash hash' with
  | nil => exact Iff.rfl
  | cons byte rest ih => rw [List.foldl_cons, List.foldl_cons, ih, mix_left_inj]

theorem oneAtATime_inj {x y : List UInt8} :
    oneAtATime x fullMask = oneAtATime y fullMask ↔ x.foldl mix 0 = y.foldl mix 0 := by
  have whole (word : UInt32) : word &&& fullMask = word := UInt32.and_neg_one
  rw [oneAtATime, oneAtATime, whole, whole, finish_inj]

theorem oneAtATime_append_inj (x y bytes : List UInt8) :
    oneAtATime (x ++ bytes) fullMask = oneAtATime (y ++ bytes) fullMask ↔
      oneAtATime x fullMask = oneAtATime y fullMask := by
  rw [oneAtATime_inj, oneAtATime_inj, List.foldl_append, List.foldl_append, foldl_mix_inj]

theorem oneAtATime_byte_inj (front back : List UInt8) (a b : UInt8) :
    oneAtATime (front ++ [a] ++ back) fullMask = oneAtATime (front ++ [b] ++ back) fullMask ↔
      a = b := by
  rw [oneAtATime_append_inj, oneAtATime_inj, List.foldl_append, List.foldl_append]
  exact mix_right_inj _

/-! ### Names -/

/-- Byte strings of one length that differ in exactly one place. -/
def OneByteApart (x y : List UInt8) : Prop :=
  x.length = y.length ∧ ∃ i : Nat, x[i]? ≠ y[i]? ∧ ∀ j : Nat, j ≠ i → x[j]? = y[j]?

theorem OneByteApart.of_ne (front back : List UInt8) {a b : UInt8} (different : a ≠ b) :
    OneByteApart (front ++ [a] ++ back) (front ++ [b] ++ back) := by
  refine ⟨by simp, front.length, by simpa using different, fun j other => ?_⟩
  rcases Nat.lt_or_gt_of_ne other with before | behind
  · simp [List.getElem?_append_left before]
  · obtain ⟨k, rfl⟩ := Nat.exists_eq_add_of_lt behind
    simp [List.getElem?_append_right, Nat.add_assoc]

theorem OneByteApart.split {x y : List UInt8} (apart : OneByteApart x y) :
    ∃ front a b back, a ≠ b ∧ x = front ++ [a] ++ back ∧ y = front ++ [b] ++ back := by
  obtain ⟨length, i, differ, elsewhere⟩ := apart
  have inside : i < x.length := by
    refine Nat.lt_of_not_le fun beyond => differ ?_
    rw [List.getElem?_eq_none beyond, List.getElem?_eq_none (length ▸ beyond)]
  have inside' : i < y.length := length ▸ inside
  have front : x.take i = y.take i := by
    refine List.ext_getElem? fun j => ?_
    rw [List.getElem?_take, List.getElem?_take]
    split
    · rename_i before
      exact elsewhere j (Nat.ne_of_lt before)
    · rfl
  have back : x.drop (i + 1) = y.drop (i + 1) := by
    refine List.ext_getElem? fun j => ?_
    rw [List.getElem?_drop, List.getElem?_drop]
    exact elsewhere _ (by omega)
  refine ⟨x.take i, x[i], y[i], x.drop (i + 1), fun same => differ ?_, ?_, ?_⟩
  · rw [List.getElem?_eq_getElem inside, List.getElem?_eq_getElem inside', same]
  · rw [List.append_assoc, List.singleton_append, List.getElem_cons_drop, List.take_append_drop]
  · rw [front, back, List.append_assoc, List.singleton_append, List.getElem_cons_drop,
      List.take_append_drop]

end Hash

open Hash

/-- Bytes in common at the end have no part in whether two hashes agree, so of hashes of byte
strings that differ in one byte no two agree, and no two names like that share a category. -/
theorem hash_is_cancellative :
    (∀ x y bytes, oneAtATime (x ++ bytes) fullMask = oneAtATime (y ++ bytes) fullMask ↔
      oneAtATime x fullMask = oneAtATime y fullMask) ∧
    (∀ front back a b,
      oneAtATime (front ++ [a] ++ back) fullMask = oneAtATime (front ++ [b] ++ back) fullMask ↔
        a = b) ∧
    ∀ name name' : String, OneByteApart name.toUTF8.toList name'.toUTF8.toList →
      TypeId.ofName name ≠ TypeId.ofName name' := by
  refine ⟨oneAtATime_append_inj, oneAtATime_byte_inj, fun name name' apart same => ?_⟩
  obtain ⟨front, a, b, back, different, bytes, bytes'⟩ := apart.split
  have hashes := congrArg TypeId.value same
  rw [TypeId.ofName, TypeId.ofName, bytes, bytes', oneAtATime_byte_inj] at hashes
  exact different hashes

/-- An accent that leans the other way is one byte of two in the middle of a name. -/
theorem accents_keep_categories_apart :
    OneByteApart "Event::Entrée".toUTF8.toList "Event::Entrèe".toUTF8.toList ∧
      TypeId.ofName "Event::Entrée" ≠ TypeId.ofName "Event::Entrèe" := by
  have front : "Event::Entr".toUTF8.toList ++ [0xc3] ++ [0xa9] ++ "e".toUTF8.toList =
      "Event::Entrée".toUTF8.toList := by cbv
  have front' : "Event::Entr".toUTF8.toList ++ [0xc3] ++ [0xa8] ++ "e".toUTF8.toList =
      "Event::Entrèe".toUTF8.toList := by cbv
  have apart : OneByteApart "Event::Entrée".toUTF8.toList "Event::Entrèe".toUTF8.toList := by
    rw [← front, ← front']
    exact .of_ne _ _ (by decide)
  exact ⟨apart, hash_is_cancellative.2.2 _ _ apart⟩

end EventEngine
