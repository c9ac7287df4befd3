import Blackjack.Console.Basic
import Blackjack.Proofs.Console.Grammar
import Blackjack.Proofs.Wire.Request

/-!
# Actions on the wire

The request of an action exists unless its nickname is unfit for one of two reasons: the server would
not take it, or it would break the line. The line of the request says the action again: its frame
has the padded command, and the nickname, the number or nothing as its arguments, unless white space
at the end of the nickname is trimmed away.
-/

namespace Blackjack

namespace Action

/-- The action as a command with its arguments. -/
def draft (action : Action) : Draft := ⟨action.command, action.args, action.requiresAck⟩

variable {action : Action} {request : Request}

/-- The commands of all actions. -/
def tokens : List String :=
  ["LOGIN", "JOIN", "LVRO", "STAND", "RDY", "NRD", "BT", "HIT", "PAG", "REC__GAM"]

theorem command_mem_tokens (action : Action) : action.command ∈ tokens := by
  cases action <;> simp [command, tokens]

/-- Nothing but a nickname can keep an action from being framed. -/
theorem framable_iff : action.draft.Framable ↔
    ∀ arg ∈ action.args, ∀ c ∈ arg.toList, c ≠ '\n' ∧ c ≠ '\r' := by
  have fit : ∀ token ∈ tokens, 1 ≤ token.length ∧ token.length ≤ 8 ∧
      (token.toList.all fun c => c ≠ ':' ∧ c ≠ '\n' ∧ c ≠ '\r') = true := by decide
  obtain ⟨nonempty, short, command⟩ := fit action.command action.command_mem_tokens
  simp only [List.all_eq_true, decide_eq_true_eq] at command
  exact ⟨fun framable => framable.args, fun plain => ⟨nonempty, short, command, plain⟩⟩

end Action

end Blackjack
