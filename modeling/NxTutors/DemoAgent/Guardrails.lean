import NxTutors.Text.Substitution

/-!
# Untrusted text in a prompt

What a user wrote is fenced before it goes into a prompt, and a closing mark in it is taken out
first. It is taken out once: where one mark stands between the pieces of another, the pieces come
together, and the fence closes early (`wrapUntrusted_endsOnce_iff`).
-/

namespace NxTutors.DemoAgent

open Text

def OPENING_MARK : String := "<untrusted_user_message>"
def CLOSING_MARK : String := "</untrusted_user_message>"

def wrapUntrusted (text : String) : String :=
  let fenced := String.ofList (remove CLOSING_MARK.toList text.toList)
  OPENING_MARK ++ "\n" ++ fenced ++ "\n" ++ CLOSING_MARK

/-- No end of the mark is its beginning. -/
theorem borderFree_closingMark : BorderFree CLOSING_MARK.toList := by
  have hall : ∀ q ∈ CLOSING_MARK.toList.inits, q ≠ [] → q <:+ CLOSING_MARK.toList →
      q = CLOSING_MARK.toList := by decide
  exact fun q hq hpre hsuf => hall q ((List.mem_inits _ _).mpr hpre) hq hsuf

/-- **When the fence closes at its end only**: exactly if no closing mark stands in pieces in the
text. -/
theorem wrapUntrusted_endsOnce_iff (text : String) :
    EndsOnce CLOSING_MARK.toList (wrapUntrusted text).toList
      ↔ ¬InPieces CLOSING_MARK.toList text.toList := by
  have hfenced : (wrapUntrusted text).toList = (OPENING_MARK.toList ++ '\n' ::
      remove CLOSING_MARK.toList text.toList) ++ '\n' :: CLOSING_MARK.toList := by
    have hline : "\n".toList = ['\n'] := rfl
    simp [wrapUntrusted, hline]
  have hopening : ¬CLOSING_MARK.toList <:+: OPENING_MARK.toList := by decide
  rw [hfenced, endsOnce_iff (by decide) (by decide), infix_line_iff (by decide) (by decide),
    or_iff_right hopening, infix_remove_self_iff (by decide) borderFree_closingMark]

end NxTutors.DemoAgent
