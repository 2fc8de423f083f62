/-! White space in the sense of Unicode's White_Space property, and trimming by it. -/
namespace ActivityRelay.Text

/-- The twenty-five characters with the White_Space property. -/
def isWhite (c : Char) : Bool :=
  (9 ≤ c.toNat && c.toNat ≤ 13) || c.toNat == 0x20 || c.toNat == 0x85 || c.toNat == 0xA0 ||
    c.toNat == 0x1680 || (0x2000 ≤ c.toNat && c.toNat ≤ 0x200A) || c.toNat == 0x2028 ||
    c.toNat == 0x2029 || c.toNat == 0x202F || c.toNat == 0x205F || c.toNat == 0x3000

def trimStart (cs : List Char) : List Char := cs.dropWhile isWhite

/-- Drops the longest end that is white space only. -/
def trimEnd : List Char → List Char
  | [] => []
  | c :: cs => if (trimEnd cs).isEmpty && isWhite c then [] else c :: trimEnd cs

def trim (cs : List Char) : List Char := trimEnd (trimStart cs)

theorem trimEnd_append_white (cs ws : List Char) (h : ∀ c ∈ ws, isWhite c = true) :
    trimEnd (cs ++ ws) = trimEnd cs := by
  induction cs with
  | nil =>
    induction ws with
    | nil => rfl
    | cons c ws ih =>
      have hc := h c (by simp)
      have hw := ih (fun d hd => h d (by simp [hd]))
      simp only [List.nil_append] at hw ⊢
      simp [trimEnd, hw, hc]
  | cons c cs ih => simp [trimEnd, ih]

theorem trimStart_white_append (ws cs : List Char) (h : ∀ c ∈ ws, isWhite c = true) :
    trimStart (ws ++ cs) = trimStart cs := by
  induction ws with
  | nil => rfl
  | cons c ws ih =>
    have hc := h c (by simp)
    have hw := ih (fun d hd => h d (by simp [hd]))
    simp only [trimStart] at hw ⊢
    simp [hc, hw]

end ActivityRelay.Text
