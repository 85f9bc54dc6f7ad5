import LogSieve.Text.Utf8
import Mathlib.Tactic.Common

/-!
# What the table of well-formed sequences says

`Utf8.reading` decides from ranges of octets what a short run is.  Here the ranges are compared with
the encoding of characters, which is given independently by `String.utf8EncodeChar`:

* `reading_eq_character_iff` — a run reads as a character exactly if it is that character's encoding.
* `reading_eq_beginning_iff` — a run reads as a beginning exactly if it is a proper part, not empty,
  of some encoding.

So no encoding begins another (`eq_of_prefix_utf8EncodeChar`), and from here on nothing needs the ranges.
-/

namespace LogSieve.Utf8

/-! ## Ranges in numbers -/

lemma within_iff {low high : Nat} {octet : UInt8} :
    within low high octet = true ↔ low ≤ octet.toNat ∧ octet.toNat ≤ high := by
  simp [within]

lemma isSecond_iff {lead octet : UInt8} :
    isSecond lead octet = true ↔ 0x80 ≤ octet.toNat ∧ octet.toNat ≤ 0xBF ∧
      (lead.toNat = 0xE0 → 0xA0 ≤ octet.toNat) ∧ (lead.toNat = 0xED → octet.toNat ≤ 0x9F) ∧
        (lead.toNat = 0xF0 → 0x90 ≤ octet.toNat) ∧ (lead.toNat = 0xF4 → octet.toNat ≤ 0x8F) := by
  unfold isSecond
  split
  · simp [within]; omega
  · simp [within]; omega
  · simp [within]; omega
  · simp [within]; omega
  · next hE0 hED hF0 hF4 =>
      have hne : ∀ n : UInt8, (lead = n → False) → lead.toNat ≠ n.toNat :=
        fun n h heq => h (UInt8.toNat_inj.1 heq)
      have hE0 : lead.toNat ≠ 0xE0 := hne _ hE0
      have hED : lead.toNat ≠ 0xED := hne _ hED
      have hF0 : lead.toNat ≠ 0xF0 := hne _ hF0
      have hF4 : lead.toNat ≠ 0xF4 := hne _ hF4
      simp [isTail, within, hE0, hED, hF0, hF4]

/-- Some octet may follow each lead. -/
lemma exists_isSecond (lead : UInt8) : ∃ octet, isSecond lead octet = true := by
  by_cases hE0 : lead.toNat = 0xE0
  · exact ⟨0xA0, isSecond_iff.2 (by simp; omega)⟩
  · by_cases hF0 : lead.toNat = 0xF0
    · exact ⟨0x90, isSecond_iff.2 (by simp; omega)⟩
    · exact ⟨0x80, isSecond_iff.2 (by simp; omega)⟩

/-! ## Characters -/

/-- The runs that read as characters, by their length. -/
lemma reading_eq_character {run : Octets} {c : Char} (h : reading run = .character c) :
    (∃ a, run = [a] ∧ a.toNat < 0x80 ∧ c = Char.ofNat a.toNat) ∨
    (∃ a b, run = [a, b] ∧ leadsTwo a = true ∧ isSecond a b = true ∧
      c = ofBits [a.toNat - 0xC0, tailBits b]) ∨
    (∃ a b d, run = [a, b, d] ∧ leadsThree a = true ∧ isSecond a b = true ∧ isTail d = true ∧
      c = ofBits [a.toNat - 0xE0, tailBits b, tailBits d]) ∨
    (∃ a b d e, run = [a, b, d, e] ∧ leadsFour a = true ∧ isSecond a b = true ∧
      isTail d = true ∧ isTail e = true ∧
        c = ofBits [a.toNat - 0xF0, tailBits b, tailBits d, tailBits e]) := by
  unfold reading at h
  split at h
  · next a =>
      split_ifs at h with ha
      exact Or.inl ⟨a, rfl, ha, by simpa using h.symm⟩
  · next a b =>
      split_ifs at h with hab
      rw [Bool.and_eq_true] at hab
      exact Or.inr (Or.inl ⟨a, b, rfl, hab.1, hab.2, by simpa using h.symm⟩)
  · next a b d =>
      split_ifs at h with hrun
      simp only [Bool.and_eq_true] at hrun
      obtain ⟨⟨ha, hb⟩, hd⟩ := hrun
      exact Or.inr (Or.inr (Or.inl ⟨a, b, d, rfl, ha, hb, hd, by simpa using h.symm⟩))
  · next a b d e =>
      split_ifs at h with hrun
      simp only [Bool.and_eq_true] at hrun
      obtain ⟨⟨⟨ha, hb⟩, hd⟩, he⟩ := hrun
      exact Or.inr (Or.inr (Or.inr ⟨a, b, d, e, rfl, ha, hb, hd, he, by simpa using h.symm⟩))
  · cases h

lemma toNat_ofNat_of_isValidChar {n : Nat} (h : n.isValidChar) : (Char.ofNat n).val.toNat = n := by
  rw [Char.ofNat, dif_pos h]
  rfl

lemma tailBits_eq (octet : UInt8) : tailBits octet = octet.toNat - 0x80 := rfl

lemma ofBits_eq_ofNat {groups : List Nat} {n : Nat}
    (h : groups.foldl (fun value bits => value * 64 + bits) 0 = n) :
    ofBits groups = Char.ofNat n := by
  rw [ofBits, h]

lemma ofNat_eq_of_eq_toNat {n : Nat} {octet : UInt8} (h : n = octet.toNat) :
    UInt8.ofNat n = octet := by
  rw [h, UInt8.ofNat_toNat]

section

variable {c : Char} {n : Nat} (hn : c.val.toNat = n)
include hn

lemma utf8EncodeChar_one (h : n ≤ 0x7F) : String.utf8EncodeChar c = [UInt8.ofNat n] := by
  unfold String.utf8EncodeChar
  rw [hn]
  exact if_pos h

lemma utf8EncodeChar_two (hlow : 0x7F < n) (hhigh : n ≤ 0x7FF) :
    String.utf8EncodeChar c = [UInt8.ofNat (n / 64 + 0xC0), UInt8.ofNat (n % 64 + 0x80)] := by
  unfold String.utf8EncodeChar
  rw [hn]
  simp only []
  rw [if_neg (by omega), if_pos hhigh, Nat.mod_eq_of_lt (by omega : n / 64 < 0x20)]

lemma utf8EncodeChar_three (hlow : 0x7FF < n) (hhigh : n ≤ 0xFFFF) :
    String.utf8EncodeChar c = [UInt8.ofNat (n / 4096 + 0xE0), UInt8.ofNat (n / 64 % 64 + 0x80),
      UInt8.ofNat (n % 64 + 0x80)] := by
  unfold String.utf8EncodeChar
  rw [hn]
  simp only []
  rw [if_neg (by omega), if_neg (by omega), if_pos hhigh,
    Nat.mod_eq_of_lt (by omega : n / 4096 < 0x10)]

lemma utf8EncodeChar_four (hlow : 0xFFFF < n) (hhigh : n < 0x110000) :
    String.utf8EncodeChar c = [UInt8.ofNat (n / 262144 + 0xF0), UInt8.ofNat (n / 4096 % 64 + 0x80),
      UInt8.ofNat (n / 64 % 64 + 0x80), UInt8.ofNat (n % 64 + 0x80)] := by
  unfold String.utf8EncodeChar
  rw [hn]
  simp only []
  rw [if_neg (by omega), if_neg (by omega), if_neg (by omega),
    Nat.mod_eq_of_lt (by omega : n / 262144 < 0x08)]

end

/-- A run that reads as a character is its encoding. -/
lemma utf8EncodeChar_of_reading {run : Octets} {c : Char} (h : reading run = .character c) :
    String.utf8EncodeChar c = run := by
  rcases reading_eq_character h with
    ⟨a, rfl, ha, hc⟩ | ⟨a, b, rfl, ha, hb, hc⟩ | ⟨a, b, d, rfl, ha, hb, hd, hc⟩ |
    ⟨a, b, d, e, rfl, ha, hb, hd, he, hc⟩
  · have hvalid : a.toNat.isValidChar := Or.inl (by omega)
    rw [hc, utf8EncodeChar_one (toNat_ofNat_of_isValidChar hvalid) (by omega), UInt8.ofNat_toNat]
  · simp only [leadsTwo, within_iff, isSecond_iff] at ha hb
    obtain ⟨n, hn⟩ : ∃ n, n = (a.toNat - 0xC0) * 64 + (b.toNat - 0x80) := ⟨_, rfl⟩
    have hchar : ofBits [a.toNat - 0xC0, tailBits b] = Char.ofNat n :=
      ofBits_eq_ofNat (by simp [tailBits_eq, hn])
    have hvalid : n.isValidChar := Or.inl (by omega)
    rw [hc, hchar, utf8EncodeChar_two (toNat_ofNat_of_isValidChar hvalid) (by omega) (by omega),
      ofNat_eq_of_eq_toNat (by omega : n / 64 + 0xC0 = a.toNat),
      ofNat_eq_of_eq_toNat (by omega : n % 64 + 0x80 = b.toNat)]
  · simp only [leadsThree, isTail, within_iff, isSecond_iff] at ha hb hd
    obtain ⟨n, hn⟩ : ∃ n, n = ((a.toNat - 0xE0) * 64 + (b.toNat - 0x80)) * 64 + (d.toNat - 0x80) :=
      ⟨_, rfl⟩
    have hchar : ofBits [a.toNat - 0xE0, tailBits b, tailBits d] = Char.ofNat n :=
      ofBits_eq_ofNat (by simp [tailBits_eq, hn])
    -- the second octet after ED is what keeps the surrogates out
    have hvalid : n.isValidChar := by
      rw [Nat.isValidChar]
      omega
    rw [hc, hchar, utf8EncodeChar_three (toNat_ofNat_of_isValidChar hvalid) (by omega) (by omega),
      ofNat_eq_of_eq_toNat (by omega : n / 4096 + 0xE0 = a.toNat),
      ofNat_eq_of_eq_toNat (by omega : n / 64 % 64 + 0x80 = b.toNat),
      ofNat_eq_of_eq_toNat (by omega : n % 64 + 0x80 = d.toNat)]
  · simp only [leadsFour, isTail, within_iff, isSecond_iff] at ha hb hd he
    obtain ⟨n, hn⟩ : ∃ n, n = (((a.toNat - 0xF0) * 64 + (b.toNat - 0x80)) * 64 +
        (d.toNat - 0x80)) * 64 + (e.toNat - 0x80) := ⟨_, rfl⟩
    have hchar : ofBits [a.toNat - 0xF0, tailBits b, tailBits d, tailBits e] = Char.ofNat n :=
      ofBits_eq_ofNat (by simp [tailBits_eq, hn])
    have hvalid : n.isValidChar := by
      rw [Nat.isValidChar]
      omega
    rw [hc, hchar, utf8EncodeChar_four (toNat_ofNat_of_isValidChar hvalid) (by omega) (by omega),
      ofNat_eq_of_eq_toNat (by omega : n / 262144 + 0xF0 = a.toNat),
      ofNat_eq_of_eq_toNat (by omega : n / 4096 % 64 + 0x80 = b.toNat),
      ofNat_eq_of_eq_toNat (by omega : n / 64 % 64 + 0x80 = d.toNat),
      ofNat_eq_of_eq_toNat (by omega : n % 64 + 0x80 = e.toNat)]

lemma reading_two {a b : UInt8} (ha : leadsTwo a = true) (hb : isSecond a b = true) :
    reading [a, b] = .character (ofBits [a.toNat - 0xC0, tailBits b]) := by
  simp [reading, ha, hb]

lemma reading_three {a b d : UInt8} (ha : leadsThree a = true) (hb : isSecond a b = true)
    (hd : isTail d = true) :
    reading [a, b, d] = .character (ofBits [a.toNat - 0xE0, tailBits b, tailBits d]) := by
  simp [reading, ha, hb, hd]

lemma reading_four {a b d e : UInt8} (ha : leadsFour a = true) (hb : isSecond a b = true)
    (hd : isTail d = true) (he : isTail e = true) :
    reading [a, b, d, e] = .character (ofBits [a.toNat - 0xF0, tailBits b, tailBits d, tailBits e]) := by
  simp [reading, ha, hb, hd, he]

/-- The encoding of a character reads as that character. -/
lemma reading_utf8EncodeChar (c : Char) : reading (String.utf8EncodeChar c) = .character c := by
  obtain ⟨n, hn⟩ : ∃ n, c.val.toNat = n := ⟨_, rfl⟩
  have hback : Char.ofNat n = c := by
    rw [← hn]
    exact Char.ofNat_toNat c
  have hvalid : n < 0xD800 ∨ 0xDFFF < n ∧ n < 0x110000 := hn ▸ c.valid
  have hoctet : ∀ m, m < 256 → (UInt8.ofNat m).toNat = m := fun m hm => by
    rw [UInt8.toNat_ofNat', Nat.mod_eq_of_lt hm]
  by_cases hone : n ≤ 0x7F
  · rw [utf8EncodeChar_one hn hone, reading, hoctet n (by omega), if_pos (by omega), hback]
  by_cases htwo : n ≤ 0x7FF
  · have ha := hoctet (n / 64 + 0xC0) (by omega)
    have hb := hoctet (n % 64 + 0x80) (by omega)
    rw [utf8EncodeChar_two hn (by omega) htwo,
      reading_two (within_iff.2 (by omega)) (isSecond_iff.2 (by omega)), ha, tailBits_eq, hb,
      ofBits_eq_ofNat (n := n), hback]
    simp only [List.foldl_cons, List.foldl_nil]
    omega
  by_cases hthree : n ≤ 0xFFFF
  · have ha := hoctet (n / 4096 + 0xE0) (by omega)
    have hb := hoctet (n / 64 % 64 + 0x80) (by omega)
    have hd := hoctet (n % 64 + 0x80) (by omega)
    rw [utf8EncodeChar_three hn (by omega) hthree,
      reading_three (within_iff.2 (by omega)) (isSecond_iff.2 (by omega)) (within_iff.2 (by omega)),
      ha, tailBits_eq, hb, tailBits_eq, hd, ofBits_eq_ofNat (n := n), hback]
    simp only [List.foldl_cons, List.foldl_nil]
    omega
  · have ha := hoctet (n / 262144 + 0xF0) (by omega)
    have hb := hoctet (n / 4096 % 64 + 0x80) (by omega)
    have hd := hoctet (n / 64 % 64 + 0x80) (by omega)
    have he := hoctet (n % 64 + 0x80) (by omega)
    rw [utf8EncodeChar_four hn (by omega) (by omega),
      reading_four (within_iff.2 (by omega)) (isSecond_iff.2 (by omega)) (within_iff.2 (by omega))
        (within_iff.2 (by omega)), ha, tailBits_eq, hb, tailBits_eq, hd, tailBits_eq, he,
      ofBits_eq_ofNat (n := n), hback]
    simp only [List.foldl_cons, List.foldl_nil]
    omega

theorem reading_eq_character_iff {run : Octets} {c : Char} :
    reading run = .character c ↔ String.utf8EncodeChar c = run := by
  constructor
  · exact utf8EncodeChar_of_reading
  · rintro rfl
    exact reading_utf8EncodeChar c

/-! ## Beginnings -/

lemma reading_lead {a : UInt8}
    (h : leadsTwo a = true ∨ leadsThree a = true ∨ leadsFour a = true) :
    reading [a] = .beginning := by
  have hge : ¬ a.toNat < 0x80 := by
    simp only [leadsTwo, leadsThree, leadsFour, within_iff] at h
    omega
  rw [reading, if_neg hge, if_pos]
  simpa [or_assoc] using h

lemma leadsTwo_eq_false {a : UInt8} (h : leadsThree a = true ∨ leadsFour a = true) :
    leadsTwo a = false := by
  simp only [leadsTwo, leadsThree, leadsFour, within_iff, ← Bool.not_eq_true] at h ⊢
  omega

lemma leadsThree_eq_false {a : UInt8} (h : leadsFour a = true) : leadsThree a = false := by
  simp only [leadsThree, leadsFour, within_iff, ← Bool.not_eq_true] at h ⊢
  omega

/-- What a character's run begins with is a beginning. -/
lemma reading_eq_beginning_of_append {run tail : Octets} {c : Char} (hrun : run ≠ [])
    (htail : tail ≠ []) (h : reading (run ++ tail) = .character c) : reading run = .beginning := by
  rcases reading_eq_character h with
    ⟨a, heq, -⟩ | ⟨a, b, heq, ha, hb, -⟩ | ⟨a, b, d, heq, ha, hb, hd, -⟩ |
    ⟨a, b, d, e, heq, ha, hb, hd, he, -⟩
  · rcases List.append_eq_singleton_iff.1 heq with ⟨rfl, -⟩ | ⟨-, rfl⟩
    · exact absurd rfl hrun
    · exact absurd rfl htail
  · obtain rfl : run = [a] := by
      match run, hrun with
      | [x], _ => simp_all
      | x :: y :: run, _ => simp_all
    exact reading_lead (Or.inl ha)
  · obtain rfl | rfl : run = [a] ∨ run = [a, b] := by
      match run, hrun with
      | [x], _ => simp_all
      | [x, y], _ => simp_all
      | x :: y :: z :: run, _ => simp_all
    · exact reading_lead (Or.inr (Or.inl ha))
    · simp [reading, leadsTwo_eq_false (Or.inl ha), ha, hb]
  · obtain rfl | rfl | rfl : run = [a] ∨ run = [a, b] ∨ run = [a, b, d] := by
      match run, hrun with
      | [x], _ => simp_all
      | [x, y], _ => simp_all
      | [x, y, z], _ => simp_all
      | x :: y :: z :: w :: run, _ => simp_all
    · exact reading_lead (Or.inr (Or.inr ha))
    · simp [reading, leadsTwo_eq_false (Or.inr ha), ha, hb]
    · simp [reading, leadsThree_eq_false ha, ha, hb, hd]

/-- A beginning can be finished. -/
lemma exists_reading_append {run : Octets} (h : reading run = .beginning) :
    run ≠ [] ∧ ∃ tail c, tail ≠ [] ∧ reading (run ++ tail) = .character c := by
  have htail : isTail 0x80 = true := by decide
  unfold reading at h
  split at h
  · next a =>
      obtain ⟨b, hb⟩ := exists_isSecond a
      split_ifs at h with hlow hlead
      simp only [Bool.or_eq_true] at hlead
      rcases hlead with (htwo | hthree) | hfour
      · exact ⟨by simp, [b], _, by simp, reading_two htwo hb⟩
      · exact ⟨by simp, [b, 0x80], _, by simp, reading_three hthree hb htail⟩
      · exact ⟨by simp, [b, 0x80, 0x80], _, by simp, reading_four hfour hb htail htail⟩
  · next a b =>
      split_ifs at h with hchar hrun
      simp only [Bool.and_eq_true, Bool.or_eq_true] at hrun
      obtain ⟨hthree | hfour, hb⟩ := hrun
      · exact ⟨by simp, [0x80], _, by simp, reading_three hthree hb htail⟩
      · exact ⟨by simp, [0x80, 0x80], _, by simp, reading_four hfour hb htail htail⟩
  · next a b d =>
      split_ifs at h with hchar hrun
      simp only [Bool.and_eq_true] at hrun
      obtain ⟨⟨hfour, hb⟩, hd⟩ := hrun
      exact ⟨by simp, [0x80], _, by simp, reading_four hfour hb hd htail⟩
  · split_ifs at h
  · cases h

theorem reading_eq_beginning_iff {run : Octets} :
    reading run = .beginning ↔
      run ≠ [] ∧ ∃ c, run <+: String.utf8EncodeChar c ∧ run ≠ String.utf8EncodeChar c := by
  constructor
  · intro h
    obtain ⟨hrun, tail, c, htail, hchar⟩ := exists_reading_append h
    rw [reading_eq_character_iff] at hchar
    refine ⟨hrun, c, ⟨tail, hchar.symm⟩, fun heq => htail ?_⟩
    simpa [← heq] using hchar
  · rintro ⟨hrun, c, ⟨tail, heq⟩, hne⟩
    have htail : tail ≠ [] := by
      rintro rfl
      exact hne (by simpa using heq)
    exact reading_eq_beginning_of_append hrun htail (reading_eq_character_iff.2 heq.symm)

/-- **No encoding begins another.** -/
theorem eq_of_prefix_utf8EncodeChar {c d : Char}
    (h : String.utf8EncodeChar c <+: String.utf8EncodeChar d) : c = d := by
  by_cases heq : String.utf8EncodeChar c = String.utf8EncodeChar d
  · have hread := reading_utf8EncodeChar c
    rw [heq, reading_utf8EncodeChar d] at hread
    exact (Reading.character.inj hread).symm
  · have hread := reading_eq_beginning_iff.2 ⟨String.utf8EncodeChar_ne_nil, d, h, heq⟩
    rw [reading_utf8EncodeChar] at hread
    cases hread

end LogSieve.Utf8
