/-! Why a JSON text cannot be read, and the steps that every reader shares. -/
namespace ActivityRelay.Json

/-- The first fault met from left to right. -/
inductive ReadError where
  /-- The text ends where more must follow. -/
  | ended
  /-- No JSON text continues like this. -/
  | malformed
  /-- What stands there is JSON, but not what is asked for. -/
  | mismatched
  deriving DecidableEq, Repr

def isBlank (c : Char) : Bool := c = ' ' || c = '\t' || c = '\n' || c = '\r'

def skipBlank (cs : List Char) : List Char := cs.dropWhile isBlank

theorem skipBlank_append (ws cs : List Char) (h : ∀ c ∈ ws, isBlank c = true) :
    skipBlank (ws ++ cs) = skipBlank cs := by
  induction ws with
  | nil => rfl
  | cons c ws ih =>
    have hw := ih fun d hd => h d (by simp [hd])
    simp only [skipBlank] at hw ⊢
    simp [h c (by simp), hw]

theorem skipBlank_of_mark {c : Char} (h : isBlank c = false) (cs : List Char) :
    skipBlank (c :: cs) = c :: cs := by simp [skipBlank, h]

/-- The rest of a word such as `null`. -/
def readWord : List Char → List Char → Except ReadError (List Char)
  | [], cs => .ok cs
  | _ :: _, [] => .error .ended
  | w :: ws, c :: cs => if c = w then readWord ws cs else .error .malformed

end ActivityRelay.Json
