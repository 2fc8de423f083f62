import ActivityRelay.Text.Utf8

/-! Text read back from its bytes: decoding undoes encoding, and the bytes of a character other
than an ASCII one are no ASCII bytes. -/
namespace ActivityRelay.Text.Utf8

theorem toNat_toUInt8 {n : Nat} (h : n < 256) : n.toUInt8.toNat = n := by
  simp [Nat.toUInt8, Nat.mod_eq_of_lt h]

theorem toNat_bounds (c : Char) :
    c.toNat < 0xD800 ∨ (0xDFFF < c.toNat ∧ c.toNat < 0x110000) := c.valid

/-- A byte that goes on with a character. -/
theorem itemsFrom_continue {s : Begun} {n : Nat} (hn : n < 256) (low : s.low ≤ n)
    (high : n ≤ s.high) (bytes : List UInt8) : itemsFrom (some s) (n.toUInt8 :: bytes) =
      match s.more with
      | 0 => .char (Char.ofNat (s.bits * 64 + (n - 0x80))) :: itemsFrom none bytes
      | more + 1 => itemsFrom (some ⟨s.bits * 64 + (n - 0x80), 0x80, 0xBF, more⟩) bytes := by
  simp only [itemsFrom, read, toNat_toUInt8 hn, low, high, and_self, if_true]
  cases s.more <;> rfl

theorem itemsFrom_begin {n : Nat} {s : Begun} (hn : n < 256) (h : 0x80 ≤ n)
    (hs : begin? n = some s) (bytes : List UInt8) :
    itemsFrom none (n.toUInt8 :: bytes) = itemsFrom (some s) bytes := by
  have hlow : ¬ n < 0x80 := by omega
  simp [itemsFrom, read, toNat_toUInt8 hn, hlow, hs]

theorem begin?_two {k : Nat} (low : 2 ≤ k) (high : k < 0x20) :
    begin? (0xC0 + k) = some ⟨k, 0x80, 0xBF, 0⟩ := by
  rw [begin?, if_neg (by omega), if_pos (by omega), Nat.add_sub_cancel_left]

/-- The first of three bytes leaves out what two bytes can say, and the surrogates. -/
theorem begin?_three {k : Nat} (high : k < 0x10) : begin? (0xE0 + k) =
    some ⟨k, if k = 0 then 0xA0 else 0x80, if k = 0xD then 0x9F else 0xBF, 1⟩ := by
  rw [begin?, if_neg (by omega), if_neg (by omega)]
  by_cases h0 : k = 0
  · subst h0
    rfl
  by_cases hd : k = 0xD
  · subst hd
    rfl
  rw [if_neg (by omega), if_neg (by omega), if_pos (by omega), if_neg h0, if_neg hd,
    Nat.add_sub_cancel_left]

/-- The first of four bytes leaves out what three bytes can say, and what is no character. -/
theorem begin?_four {k : Nat} (high : k < 5) : begin? (0xF0 + k) =
    some ⟨k, if k = 0 then 0x90 else 0x80, if k = 4 then 0x8F else 0xBF, 2⟩ := by
  rw [begin?, if_neg (by omega), if_neg (by omega), if_neg (by omega), if_neg (by omega),
    if_neg (by omega)]
  by_cases h0 : k = 0
  · subst h0
    rfl
  by_cases h4 : k = 4
  · subst h4
    rfl
  rw [if_neg (by omega), if_pos (by omega), if_neg h0, if_neg h4, Nat.add_sub_cancel_left]

/-- The bytes of a character are read as that character, whatever follows. -/
theorem itemsFrom_encodeChar (c : Char) (bytes : List UInt8) :
    itemsFrom none (encodeChar c ++ bytes) = .char c :: itemsFrom none bytes := by
  have hv := toNat_bounds c
  have found {n : Nat} (hn : n = c.toNat) : Char.ofNat n = c := by rw [hn, Char.ofNat_toNat]
  simp only [encodeChar]
  split
  · next h1 =>
    simp [itemsFrom, read, toNat_toUInt8 (show c.toNat < 256 by omega), h1]
  · next h1 =>
    split
    · next h2 =>
      have hlead := begin?_two (k := c.toNat / 64) (by omega) (by omega)
      rw [List.cons_append, List.cons_append, List.nil_append,
        itemsFrom_begin (by omega) (by omega) hlead,
        itemsFrom_continue (by omega) (by simp) (by simp; omega)]
      simp only
      rw [found (by omega)]
    · next h2 =>
      split
      · next h3 =>
        have hlead := begin?_three (k := c.toNat / 4096) (by omega)
        rw [List.cons_append, List.cons_append, List.cons_append, List.nil_append,
          itemsFrom_begin (by omega) (by omega) hlead,
          itemsFrom_continue (by omega) (by dsimp only; split <;> omega)
            (by dsimp only; split <;> omega)]
        simp only
        rw [itemsFrom_continue (by omega) (by simp) (by simp; omega)]
        simp only
        rw [found (by omega)]
      · next h3 =>
        have hlead := begin?_four (k := c.toNat / 262144) (by omega)
        rw [List.cons_append, List.cons_append, List.cons_append, List.cons_append,
          List.nil_append, itemsFrom_begin (by omega) (by omega) hlead,
          itemsFrom_continue (by omega) (by dsimp only; split <;> omega)
            (by dsimp only; split <;> omega)]
        simp only
        rw [itemsFrom_continue (by omega) (by simp) (by simp; omega)]
        simp only
        rw [itemsFrom_continue (by omega) (by simp) (by simp; omega)]
        simp only
        rw [found (by omega)]

theorem items_encode (s : String) : items (encode s) = s.toList.map .char := by
  rw [items, encode]
  induction s.toList with
  | nil => rfl
  | cons c cs ih => rw [List.flatMap_cons, itemsFrom_encodeChar, ih, List.map_cons]

theorem decode?_encode (s : String) : decode? (encode s) = some s := by
  have hm : ∀ cs : List Char, (cs.map Item.char).mapM Item.char? = some cs := by
    intro cs
    induction cs with
    | nil => rfl
    | cons c cs ih => simp [Item.char?, ih]
  rw [decode?, items_encode, hm, Option.map_some, String.ofList_toList]

theorem mem_encodeChar_of_lt {c : Char} {b : UInt8} (hb : b.toNat < 0x80) :
    b ∈ encodeChar c ↔ c.toNat = b.toNat := by
  have hv := toNat_bounds c
  have same {n : Nat} (hn : n < 256) : b = n.toUInt8 ↔ b.toNat = n := by
    rw [← UInt8.toNat_inj, toNat_toUInt8 hn]
  simp only [encodeChar]
  split
  · rw [List.mem_singleton, same (by omega)]
    exact eq_comm
  · split
    · rw [List.mem_cons, List.mem_singleton, same (by omega), same (by omega)]
      omega
    · split
      · rw [List.mem_cons, List.mem_cons, List.mem_singleton, same (by omega), same (by omega),
          same (by omega)]
        omega
      · rw [List.mem_cons, List.mem_cons, List.mem_cons, List.mem_singleton, same (by omega),
          same (by omega), same (by omega), same (by omega)]
        omega

theorem one_le_length_encodeChar (c : Char) : 1 ≤ (encodeChar c).length := by
  simp only [encodeChar]
  split
  · simp
  · split
    · simp
    · split <;> simp

theorem length_le_size (cs : List Char) : cs.length ≤ size cs := by
  induction cs with
  | nil => exact Nat.zero_le _
  | cons c cs ih =>
    have hc := one_le_length_encodeChar c
    simp only [size, List.flatMap_cons, List.length_append, List.length_cons] at ih ⊢
    omega

theorem lineFeed_mem_encode (s : String) : 10 ∈ encode s ↔ '\n' ∈ s.toList := by
  have hc : ∀ c : Char, (10 : UInt8) ∈ encodeChar c ↔ c = '\n' := fun c => by
    rw [mem_encodeChar_of_lt (by decide)]
    exact ⟨fun h => Char.toNat_inj.1 h, fun h => h ▸ rfl⟩
  simp [encode, hc]

end ActivityRelay.Text.Utf8
