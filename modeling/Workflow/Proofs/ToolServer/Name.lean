import Workflow.Proofs.Text.Piece
import Workflow.Tool

/-!
# Qualified names of tools

A qualified name is the name of a server and the name of a tool with two
underscores between them, and it is read back at the first two underscores.
The server that is read may therefore be shorter than the one that was meant.
Whether this happens depends on the server only: `split?_qualified_iff` says
that a name comes back as it was just if its server is `Separable`, whatever
the tool is called.
-/

namespace Workflow.ToolName

variable {server other tool another : String}

/-- A server whose name holds no two underscores in a row and does not end in
one. -/
def Separable (server : String) : Prop :=
  ¬ "__".toList <:+: server.toList ++ ['_']

instance : DecidablePred Separable := fun server =>
  inferInstanceAs (Decidable (¬ "__".toList <:+: server.toList ++ ['_']))

theorem toList_qualified (server tool : String) :
    (qualified server tool).toList =
      "mcp__".toList ++ (server.toList ++ "__".toList ++ tool.toList) := by
  simp [qualified]

/-- The server and the tool of a text that has been broken. -/
def parts? : List Char × List Char → Option (String × String)
  | (before, after) =>
    if before.isEmpty || after.isEmpty then none
    else some (String.ofList before, String.ofList after)

theorem parts?_eq_some_iff {broken : List Char × List Char} :
    parts? broken = some (server, tool) ↔
      broken = (server.toList, tool.toList) ∧ server ≠ "" ∧ tool ≠ "" := by
  obtain ⟨before, after⟩ := broken
  constructor
  · intro hparts
    simp only [parts?] at hparts
    split at hparts
    next => simp at hparts
    next hne =>
      obtain ⟨rfl, rfl⟩ := Prod.mk.inj (Option.some.inj hparts)
      simpa [not_or] using hne
  · rintro ⟨hbroken, hserver, htool⟩
    obtain ⟨rfl, rfl⟩ := Prod.mk.inj hbroken
    simp [parts?, hserver, htool]

/-- A name is read back by breaking what follows its head. -/
theorem split?_qualified (server tool : String) :
    split? (qualified server tool) =
      (Text.breakOn? "__".toList
        (server.toList ++ "__".toList ++ tool.toList)).bind parts? := by
  rw [split?, toList_qualified, Text.dropHead?_append]
  rfl

theorem break_iff_separable (server tool : String) :
    Text.breakOn? "__".toList (server.toList ++ "__".toList ++ tool.toList) =
      some (server.toList, tool.toList) ↔ Separable server :=
  Text.breakOn?_append_iff (by simp)

/-- A name comes back as it was just if neither part is empty and the server
is separable. -/
theorem split?_qualified_iff :
    split? (qualified server tool) = some (server, tool) ↔
      server ≠ "" ∧ tool ≠ "" ∧ Separable server := by
  rw [split?_qualified, Option.bind_eq_some_iff,
    ← break_iff_separable server tool]
  simp only [parts?_eq_some_iff]
  constructor
  · rintro ⟨broken, hbreak, rfl, hserver, htool⟩
    exact ⟨hserver, htool, hbreak⟩
  · rintro ⟨hserver, htool, hbreak⟩
    exact ⟨_, hbreak, rfl, hserver, htool⟩

/-- Whatever is read off a name, it is the server that was meant just if this
server is separable, and then it is the tool as well. -/
theorem server_eq_iff_separable
    (hsplit : split? (qualified server tool) = some (other, another)) :
    (other = server ↔ Separable server) ∧ (other = server → another = tool) := by
  rw [split?_qualified] at hsplit
  obtain ⟨broken, hbreak, hparts⟩ := Option.bind_eq_some_iff.mp hsplit
  obtain ⟨rfl, -, -⟩ := parts?_eq_some_iff.mp hparts
  have htool : other = server → another = tool := by
    rintro rfl
    have htext := Text.append_of_breakOn? hbreak
    exact String.toList_injective (List.append_cancel_left htext)
  refine ⟨⟨?_, ?_⟩, htool⟩
  · intro hserver
    rw [← break_iff_separable server tool, hbreak, htool hserver, hserver]
  · intro hseparable
    rw [(break_iff_separable server tool).mpr hseparable] at hbreak
    exact String.toList_injective (Prod.mk.inj (Option.some.inj hbreak)).1.symm

/-- Tools of separable servers differ in their names. -/
theorem Separable.qualified_inj (hseparable : Separable server)
    (hother : Separable other)
    (hname : qualified server tool = qualified other another) :
    server = other ∧ tool = another := by
  have htexts : server.toList ++ "__".toList ++ tool.toList =
      other.toList ++ "__".toList ++ another.toList := by
    have hlists := congrArg String.toList hname
    rw [toList_qualified, toList_qualified] at hlists
    exact List.append_cancel_left hlists
  have hbreak := (break_iff_separable server tool).mpr hseparable
  rw [htexts, (break_iff_separable other another).mpr hother] at hbreak
  obtain ⟨hserver, htool⟩ := Prod.mk.inj (Option.some.inj hbreak)
  exact ⟨(String.toList_injective hserver).symm,
    (String.toList_injective htool).symm⟩

end Workflow.ToolName
