import ActivityRelay.Proofs.Text.Decimal
import ActivityRelay.Settings
import ActivityRelay.Text.Pieces

/-! The address to listen on, read back. Its last colon stands in front of the port, whatever the
host is made of, and the host in front of it is what was set, up to one pair of brackets. -/
namespace ActivityRelay

namespace Text

theorem colon_not_mem_decimal (n : Nat) : ':' ∉ decimal n := fun h =>
  absurd (decimal_all_digits n ':' h) (by decide)

end Text

namespace Settings
open Text
variable {host other : List Char}

def bracketed (host : List Char) : List Char := ['['] ++ host ++ [']']

/-- A host with a colon of its own and without a bracket in front of it. -/
structure IsBare (host : List Char) : Prop where
  colon : ':' ∈ host
  unopened : host.head? ≠ some '['

theorem not_isBare_bracketed (host : List Char) : ¬ IsBare (bracketed host) :=
  fun h => h.unopened rfl

theorem listenHost_of_isBare (h : IsBare host) : listenHost host = bracketed host :=
  if_pos ⟨h.colon, h.unopened⟩

theorem listenHost_of_not_isBare (h : ¬ IsBare host) : listenHost host = host :=
  if_neg fun hbare => h ⟨hbare.1, hbare.2⟩

theorem listenHost_eq_or (host : List Char) :
    listenHost host = host ∨ listenHost host = bracketed host := by
  by_cases h : IsBare host
  · exact .inr (listenHost_of_isBare h)
  · exact .inl (listenHost_of_not_isBare h)

theorem head?_listenHost (h : ':' ∈ listenHost host) : (listenHost host).head? = some '[' := by
  by_cases hbare : IsBare host
  · rw [listenHost_of_isBare hbare]
    rfl
  · rw [listenHost_of_not_isBare hbare] at h ⊢
    by_contra hopen
    exact hbare ⟨h, hopen⟩

/-- Brackets are all that two hosts can differ in and still be listened on alike. -/
theorem listenHost_eq_iff : listenHost host = listenHost other ↔ host = other ∨
    IsBare host ∧ other = bracketed host ∨ IsBare other ∧ host = bracketed other := by
  constructor
  · intro h
    by_cases hhost : IsBare host
    · rw [listenHost_of_isBare hhost] at h
      by_cases hother : IsBare other
      · rw [listenHost_of_isBare hother] at h
        exact .inl (List.append_cancel_left (List.append_cancel_right h))
      · exact .inr (.inl ⟨hhost, by rw [h, listenHost_of_not_isBare hother]⟩)
    · rw [listenHost_of_not_isBare hhost] at h
      by_cases hother : IsBare other
      · exact .inr (.inr ⟨hother, by rw [h, listenHost_of_isBare hother]⟩)
      · exact .inl (by rw [h, listenHost_of_not_isBare hother])
  · rintro (rfl | ⟨hbare, rfl⟩ | ⟨hbare, rfl⟩)
    · rfl
    · rw [listenHost_of_isBare hbare, listenHost_of_not_isBare (not_isBare_bracketed host)]
    · rw [listenHost_of_isBare hbare, listenHost_of_not_isBare (not_isBare_bracketed other)]

theorem splitLast_listenAddr (s : Settings) :
    splitLast ':' s.listenAddr.toList = some (listenHost s.bindAddr.toList, decimal s.port) := by
  rw [listenAddr, listenAddrOf, String.toList_ofList, List.append_assoc]
  exact splitLast_append _ _ (colon_not_mem_decimal s.port)

theorem listenAddr_eq_iff {s t : Settings} : s.listenAddr = t.listenAddr ↔
    s.port = t.port ∧ listenHost s.bindAddr.toList = listenHost t.bindAddr.toList := by
  constructor
  · intro h
    have hcut := splitLast_listenAddr s
    rw [h, splitLast_listenAddr t, Option.some.injEq, Prod.mk.injEq] at hcut
    exact ⟨(decimal_injective hcut.2).symm, hcut.1.symm⟩
  · rintro ⟨hport, hhost⟩
    rw [listenAddr, listenAddr, listenAddrOf, listenAddrOf, hport, hhost]

theorem eq_bracketed_iff {bindAddr other : String} :
    other.toList = bracketed bindAddr.toList ↔ other = "[" ++ bindAddr ++ "]" := by
  rw [← String.toList_inj, String.toList_append, String.toList_append]
  rfl

/-- The address to listen on is a host, a colon and the numeral of the port, which has no colon. The
host is what was set, in brackets or without them, and has a colon only behind a bracket. Two
settings listen on the same address exactly if their ports are the same, and their hosts too or but
for brackets around one that has a colon and does not begin with a bracket. -/
theorem listenAddr_read_back :
    (∀ s : Settings, ∃ host, s.listenAddr.toList = host ++ ':' :: (toString s.port).toList ∧
      splitLast ':' s.listenAddr.toList = some (host, (toString s.port).toList) ∧
      (host = s.bindAddr.toList ∨ host = bracketed s.bindAddr.toList) ∧
      (':' ∈ host → host.head? = some '[')) ∧
    ∀ s t : Settings, s.listenAddr = t.listenAddr ↔ s.port = t.port ∧
      (s.bindAddr = t.bindAddr ∨
        IsBare s.bindAddr.toList ∧ t.bindAddr = "[" ++ s.bindAddr ++ "]" ∨
        IsBare t.bindAddr.toList ∧ s.bindAddr = "[" ++ t.bindAddr ++ "]") := by
  refine ⟨fun s => ?_, fun s t => ?_⟩
  · have hcut := splitLast_listenAddr s
    rw [← toList_toString] at hcut
    exact ⟨_, splitLast_eq_some hcut, hcut, listenHost_eq_or _, head?_listenHost⟩
  · rw [listenAddr_eq_iff, listenHost_eq_iff, String.toList_inj, eq_bracketed_iff, eq_bracketed_iff]

/-- A zone in brackets, and a host that has a colon outside of its brackets. -/
theorem listenAddr_read_back_bracketed :
    let bare : Settings := { bindAddr := "fe80::1%lo", port := 9001 }
    let inBrackets : Settings := { bindAddr := "[fe80::1%lo]", port := 9001 }
    let torn : Settings := { bindAddr := "[::1]:80", port := 9001 }
    bare.listenAddr = inBrackets.listenAddr ∧ torn.listenAddr = "[::1]:80:9001" ∧
      ∃ host, ':' ∈ host ∧ host.head? = some '[' ∧
        splitLast ':' torn.listenAddr.toList = some (host, "9001".toList) := by
  intro bare inBrackets torn
  obtain ⟨cut, same⟩ := listenAddr_read_back
  have hbare : IsBare bare.bindAddr.toList := ⟨by decide, by decide⟩
  have htorn : torn.listenAddr = "[::1]:80:9001" := by
    rw [listenAddr, listenAddrOf, decimal_eq_toDigits]
    decide
  refine ⟨(same bare inBrackets).2 ⟨rfl, .inr (.inl ⟨hbare, by decide⟩)⟩, htorn, ?_⟩
  obtain ⟨host, -, hcut, hhost, hopen⟩ := cut torn
  have hcolon : ':' ∈ host := by
    rcases hhost with rfl | rfl <;> decide
  have hport : (toString torn.port).toList = "9001".toList := by
    rw [toList_toString, decimal_eq_toDigits]
    decide
  rw [hport] at hcut
  exact ⟨host, hcolon, hopen hcolon, hcut⟩

end Settings
end ActivityRelay
