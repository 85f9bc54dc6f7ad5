import LogSieve.Proofs.Utf8.Segments

/-!
# Characters and the octets inside of them

Looking for a text among octets may go octet by octet, without knowing where characters begin.
Nothing is found that is not there as characters: the octets of a character after the first are
tails, and no character begins with a tail.

* `isTail_of_mem_tail`, `isTail_eq_false_of_head?` — which octets of a character are tails.
* `not_isPrefix_of_isTail` — no text is found inside a character.
* `encode_isPrefix_iff`, `dropLeading_encode` — in front of a character a text is found exactly if its
  characters are there.
-/

namespace LogSieve.Utf8

variable {c : Char} {octet : UInt8} {octets : Octets}

lemma isTail_of_isSecond {lead : UInt8} (h : isSecond lead octet = true) : isTail octet = true := by
  obtain ⟨hlow, hhigh, -⟩ := isSecond_iff.1 h
  exact within_iff.2 ⟨hlow, hhigh⟩

lemma isTail_of_mem_tail (h : octet ∈ (String.utf8EncodeChar c).tail) : isTail octet = true := by
  rcases reading_eq_character (reading_utf8EncodeChar c) with
    ⟨a, hrun, -⟩ | ⟨a, b, hrun, -, hb, -⟩ | ⟨a, b, d, hrun, -, hb, hd, -⟩ |
    ⟨a, b, d, e, hrun, -, hb, hd, he, -⟩
  all_goals
    rw [hrun] at h
    simp only [List.tail_cons, List.mem_cons, List.not_mem_nil, or_false] at h
  · rw [h]
    exact isTail_of_isSecond hb
  · rcases h with rfl | rfl
    · exact isTail_of_isSecond hb
    · exact hd
  · rcases h with rfl | rfl | rfl
    · exact isTail_of_isSecond hb
    · exact hd
    · exact he

lemma isTail_eq_false_of_head? (h : (String.utf8EncodeChar c).head? = some octet) : isTail octet = false := by
  have hnot : octet.toNat < 0x80 ∨ 0xBF < octet.toNat → isTail octet = false := by
    intro hrange
    rw [← Bool.not_eq_true, isTail, within_iff]
    omega
  apply hnot
  rcases reading_eq_character (reading_utf8EncodeChar c) with
    ⟨a, hrun, ha, -⟩ | ⟨a, b, hrun, ha, -⟩ | ⟨a, b, d, hrun, ha, -⟩ | ⟨a, b, d, e, hrun, ha, -⟩
  all_goals
    rw [hrun, List.head?_cons, Option.some.injEq] at h
    subst h
  · exact Or.inl ha
  · rw [leadsTwo, within_iff] at ha
    omega
  · rw [leadsThree, within_iff] at ha
    omega
  · rw [leadsFour, within_iff] at ha
    omega

/-- **No text is found inside a character.** -/
theorem not_isPrefix_of_isTail {text : Text} (hne : text ≠ []) (h : isTail octet = true) :
    ¬ Text.encode text <+: octet :: octets := by
  obtain ⟨c, text, rfl⟩ := List.exists_cons_of_ne_nil hne
  obtain ⟨first, others, hrun⟩ :=
    List.exists_cons_of_ne_nil (String.utf8EncodeChar_ne_nil (c := c))
  have hfirst : isTail first = false := isTail_eq_false_of_head? (c := c) (by rw [hrun, List.head?_cons])
  rw [Text.encode_cons, hrun, List.cons_append, List.cons_prefix_cons]
  rintro ⟨rfl, -⟩
  rw [h] at hfirst
  cases hfirst

/-- In front of a character, octets begin like a text exactly if the characters do. -/
theorem encode_isPrefix_iff {lead text : Text} :
    Text.encode lead <+: Text.encode text ↔ lead <+: text := by
  constructor
  · rintro ⟨rest, h⟩
    have hhead := wellFormedHead_encode text
    rw [← h, wellFormedHead_encode_append] at hhead
    exact ⟨wellFormedHead rest, hhead⟩
  · rintro ⟨rest, rfl⟩
    exact ⟨Text.encode rest, (Text.encode_append lead rest).symm⟩

/-- What is left after a text has been found is what is left of the characters. -/
theorem dropLeading_encode (lead text : Text) :
    dropLeading (Text.encode lead) (Text.encode text) =
      (dropLeading lead text).map Text.encode := by
  cases hdrop : dropLeading lead text with
  | some rest =>
      rw [dropLeading_eq_some_iff] at hdrop
      exact dropLeading_eq_some_iff.2 (by rw [hdrop, Text.encode_append])
  | none =>
      rw [Option.map_none, Option.eq_none_iff_forall_ne_some]
      intro rest hrest
      obtain ⟨more, hmore⟩ : lead <+: text :=
        encode_isPrefix_iff.1 ⟨rest, (dropLeading_eq_some_iff.1 hrest).symm⟩
      rw [dropLeading_eq_some_iff.2 hmore.symm] at hdrop
      cases hdrop

end LogSieve.Utf8
