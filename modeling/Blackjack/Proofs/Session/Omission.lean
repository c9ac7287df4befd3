import Blackjack.Proofs.Session.Connection

/-!
# Histories with operations left out

What a history would have been without some of its operations is another history. `omitting p`
leaves out the operations that satisfy `p`, each judged at the session that it meets. A view of
sessions does not notice this if these operations change nothing that the view shows, and every
other operation does the same wherever the view shows the same (`Unnoticed`). Each operation that
stays then finds in the shorter history what it found in the longer one, as far as the view can
tell, and asks for the same.
-/

namespace Blackjack.Session

/-- The history without the operations that satisfy `p`, each at the session that it meets. -/
def omitting (p : Session → Operation → Bool) (session : Session) :
    List Operation → List Operation
  | [] => []
  | operation :: later =>
    (if p session operation then [] else [operation]) ++
      omitting p (session.step operation).1 later

variable {View : Type} {view : Session → View} {p : Session → Operation → Bool} {start : Session}
  {history before after : List Operation} {operation : Operation}

theorem omitting_append (p : Session → Operation → Bool) (session : Session)
    (before after : List Operation) :
    session.omitting p (before ++ after) =
      session.omitting p before ++ (session.run before).omitting p after := by
  induction before generalizing session with
  | nil => rfl
  | cons operation later ih =>
    simp only [List.cons_append, omitting, ih, run_cons, List.append_assoc]

/-- An operation that stays has its place in the shorter history. -/
theorem omitting_of_stays (stays : p (start.run before) operation = false) :
    start.omitting p (before ++ operation :: after) = start.omitting p before ++
      operation :: (start.run (before ++ [operation])).omitting p after := by
  rw [omitting_append, omitting, stays, run_concat]
  rfl

theorem omitting_of_missing (missing : p (start.run before) operation = true) :
    start.omitting p (before ++ operation :: after) =
      start.omitting p before ++ (start.run (before ++ [operation])).omitting p after := by
  rw [omitting_append, omitting, missing, run_concat]
  rfl

/-- Operations that are judged by themselves are filtered out. -/
theorem omitting_eq_filter (q : Operation → Bool) (session : Session) (history : List Operation) :
    session.omitting (fun _ => q) history = history.filter fun operation => !q operation := by
  induction history generalizing session with
  | nil => rfl
  | cons operation later ih =>
    rw [omitting, ih, List.filter_cons]
    cases q operation <;> rfl

/-- The view does not notice that the operations of the history that satisfy `p` are missing. -/
structure Unnoticed (view : Session → View) (p : Session → Operation → Bool) (start : Session)
    (history : List Operation) : Prop where
  /-- An operation that is left out changes nothing that the view shows, and asks for no stop. -/
  omitted : ∀ before operation, before ++ [operation] <+: history →
    p (start.run before) operation = true →
      view ((start.run before).step operation).1 = view (start.run before) ∧
        ((start.run before).step operation).2.stop = none
  /-- An operation that stays depends only on what the view shows. -/
  kept : ∀ {session other : Session} {operation : Operation}, p session operation = false →
    view other = view session →
      view (other.step operation).1 = view (session.step operation).1 ∧
        (other.step operation).2 = (session.step operation).2

namespace Unnoticed

theorem of_prefix (unnoticed : Unnoticed view p start history) (part : before <+: history) :
    Unnoticed view p start before where
  omitted := fun earlier operation inside => unnoticed.omitted earlier operation (inside.trans part)
  kept := unnoticed.kept

/-- The shorter history leads to a session that looks the same. -/
theorem view_run (unnoticed : Unnoticed view p start history) :
    view (start.run (start.omitting p history)) = view (start.run history) := by
  induction history using List.reverseRecOn with
  | nil => rfl
  | append_singleton history operation ih =>
    have earlier := ih (unnoticed.of_prefix (List.prefix_append _ _))
    cases judged : p (start.run history) operation with
    | true =>
      have idle := unnoticed.omitted history operation List.prefix_rfl judged
      rw [omitting_of_missing judged, omitting, List.append_nil, run_concat, earlier, idle.1]
    | false =>
      have same := unnoticed.kept judged earlier
      rw [omitting_of_stays judged, omitting, run_concat, run_concat, same.1]

/-- An operation that stays does the same, and asks for the same, in the shorter history. -/
theorem step (unnoticed : Unnoticed view p start history)
    (split : history = before ++ operation :: after)
    (stays : p (start.run before) operation = false) :
    view ((start.run (start.omitting p before)).step operation).1 =
        view ((start.run before).step operation).1 ∧
      ((start.run (start.omitting p before)).step operation).2 =
        ((start.run before).step operation).2 := by
  have part : before <+: history := ⟨_, split.symm⟩
  exact unnoticed.kept stays (unnoticed.of_prefix part).view_run

/-- The shorter history leaves the same wish to stop on the link. -/
theorem link_stop (unnoticed : Unnoticed view p start history) :
    (start.link (start.omitting p history)).stop = (start.link history).stop := by
  induction history using List.reverseRecOn with
  | nil => rfl
  | append_singleton history operation ih =>
    have earlier := ih (unnoticed.of_prefix (List.prefix_append _ _))
    rw [link_stop_append _ history, link_stop_singleton, ← earlier]
    cases judged : p (start.run history) operation with
    | true =>
      have idle := unnoticed.omitted history operation List.prefix_rfl judged
      rw [omitting_of_missing judged, omitting, List.append_nil, idle.2, Option.or_none]
    | false =>
      have same := unnoticed.step rfl judged
      rw [omitting_of_stays judged, omitting, link_stop_append, link_stop_singleton, same.2]

end Unnoticed

end Blackjack.Session
