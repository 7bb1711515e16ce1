import PortableSql.Proofs.Acting
import PortableSql.Proofs.Faultless
import PortableSql.Session.Execution

/-!
# Calling with arguments

A command is executed with arguments that take the place of its own, or is given by its tag and
payload with arguments beside them. Either way the call comes to executing one command without
further arguments: the command with the given arguments, or the command that is read with them.

The first argument that follows a command shares its place with the payload that follows a tag, and
a null in this place stands for no payload. So a null before all other arguments is lost: those
behind it move up, and where there are none the command keeps its own.
-/

namespace PortableSql

namespace Acting

variable {σ τ α : Type}

/-- Both actions end alike, leave the same, and do the same to the world, up to its spans. -/
def Resembles (first second : Acting σ τ α) : Prop :=
  ∀ state, ∃ spans,
    first state = ((second state).1, (second state).2.1, { (second state).2.2 with spans })

theorem Resembles.symm {first second : Acting σ τ α} (resembles : first.Resembles second) :
    second.Resembles first := by
  intro state
  obtain ⟨spans, same⟩ := resembles state
  refine ⟨(second state).2.2.spans, ?_⟩
  rw [same]
  rfl

theorem Resembles.trans {first second third : Acting σ τ α} (resembles : first.Resembles second)
    (further : second.Resembles third) : first.Resembles third := by
  intro state
  obtain ⟨spans, same⟩ := resembles state
  obtain ⟨others, sameThird⟩ := further state
  exact ⟨spans, by rw [same, sameThird]⟩

/-- Actions that follow the same action resemble each other when they do so whatever it ends
with. -/
theorem Resembles.bind {β : Type} (action : Acting σ τ α) {first second : α → Acting σ τ β}
    (resembles : ∀ value, (first value).Resembles (second value)) :
    (action >>= first).Resembles (action >>= second) := by
  intro state
  rw [bind_apply, bind_apply]
  cases action state with
  | mk outcome later => cases outcome with
    | error failure => exact ⟨later.2.spans, rfl⟩
    | ok value => exact resembles value later

end Acting

namespace Session

variable {σ : Type}

/-- A span does not change what is done inside it. -/
theorem spanned_resembles {α : Type} (operation : String) (action : Acting σ Session α) :
    (spanned operation action).Resembles action := by
  rintro ⟨session, world⟩
  unfold spanned
  rw [Acting.this_bind_apply]
  exact Acting.traced_apply _ _ action (session, world)

/-- A command that is given by its tag and payload is read and then executed. -/
theorem execute_resembles (server : Server σ) (tag : Tag.Source) (payload : Payload.Source)
    (args : List Value) :
    (execute server tag payload args).Resembles (do
      let command ← Acting.report (Payload.parse tag payload args)
      executeCommand server command []) := by
  refine (spanned_resembles tag.text _).trans (Acting.Resembles.bind _ fun command => ?_)
  exact (spanned_resembles command.tag.spelling (perform server command)).symm

/-- Given arguments become those of the command. -/
theorem executeCommand_given (server : Server σ) (command : Command) {args : List Value}
    (given : givenArgs args ≠ []) :
    executeCommand server command args =
      executeCommand server (command.withArgs (givenArgs args)) [] := by
  have full : (givenArgs args).isEmpty = false := by simpa using given
  have nothing : (givenArgs []).isEmpty = true := rfl
  simp only [executeCommand, full, nothing, Bool.false_eq_true, if_false, if_true,
    Command.tag_withArgs]

/-- Arguments of a call become those of the command that is executed, unless they begin with a
null: it is dropped, and the arguments behind it become those of the command, if there are any. A
command that is given by its tag, its payload and any arguments is the command that is read from
all of them. -/
theorem arguments_passed (server : Server σ) :
    (∀ command args, args ≠ [] → args.head? ≠ some .null →
      executeCommand server command args = executeCommand server (command.withArgs args) []) ∧
    (∀ command rest, executeCommand server command (.null :: rest) =
      executeCommand server (if rest.isEmpty then command else command.withArgs rest) []) ∧
    ∀ tag payload args, (execute server tag payload args).Resembles (do
      let command ← Acting.report (Payload.parse tag payload args)
      executeCommand server command []) := by
  refine ⟨fun command args given kept => ?_, fun command rest => ?_, execute_resembles server⟩
  · have all : givenArgs args = args := by
      unfold givenArgs
      split
      · exact absurd rfl kept
      · rfl
    rw [executeCommand_given server command (all.symm ▸ given), all]
  · cases rest with
    | nil => rfl
    | cons first others =>
      exact executeCommand_given server command (List.cons_ne_nil first others)

/-- Notes of one owner are removed, of the seventh if no other is given. -/
def ownedRemoval : Command :=
  .delete { table := "notes", condition := some "owner <=> ?", args := [.int 7] }

/-- A null that is given alone is lost, and the statement binds another owner than with it. -/
theorem ownedRemoval_passed :
    executeCommand Server.silent ownedRemoval [.int 8] =
        executeCommand Server.silent (ownedRemoval.withArgs [.int 8]) [] ∧
      executeCommand Server.silent ownedRemoval [.null] =
        executeCommand Server.silent ownedRemoval [] ∧
      [ownedRemoval, ownedRemoval.withArgs [.null]].map (fun command =>
        (compilePlan Family.mysql.dialect command).result.toOption.map fun plan =>
          plan.statements.flatMap fun statement =>
            statement.parameters.map fun parameter => parameter.value.plain) =
          [some ["7"], some ["None"]] := by
  obtain ⟨passed, dropped, -⟩ := arguments_passed Server.silent
  refine ⟨passed ownedRemoval [.int 8] (List.cons_ne_nil _ _) (by simp),
    dropped ownedRemoval [], ?_⟩
  decide +kernel

end Session

end PortableSql
