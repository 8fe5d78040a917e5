import QueryFence.Jira.Client
import QueryFence.Proofs.View.Shape

/-!
What the client answers: results of one shape, whatever the service sends as issues and total, or a
failure.
-/

namespace QueryFence.Jira

open QueryFence.Steps

/-- Results as the client gives them: issues and a total as they were sent, and an account with texts. -/
def IsReport (results : Json) : Prop :=
  ∃ (issues total : Json) (name host color : Text), results =
    .object [("issues", issues), ("total", total), ("account", .object [("alias", .text name),
      ("host", .text host), ("color", .text color)])]

/-- An answer of the client. -/
def IsAnswer (outcome : Except SearchFailure Json) : Prop :=
  ∀ results, outcome = .ok results → IsReport results

variable {ε : Type} {answer : (q : Action) → ε → q.Reply × ε} {c : Client} {query : Text}
  {limit : Int} {world : ε} {results : Json}

theorem isReport_of_resultsOf {account : Account} {data : Json}
    (h : resultsOf account data = .ok results) : IsReport results := by
  obtain ⟨issues, -, h⟩ := bind_eq_ok_iff.1 h
  obtain ⟨total, -, h⟩ := bind_eq_ok_iff.1 h
  cases h
  exact ⟨issues, total, account.name, account.host, account.color, rfl⟩

theorem searchIn_isAnswer (last : SearchFailure) (accounts : List Account) (world : ε) :
    IsAnswer ((searchIn c query limit last accounts).run answer world).1 := by
  induction accounts generalizing last world with
  | nil => exact nofun
  | cons account rest ih =>
    rw [searchIn, Plan.run_andThen]
    cases ((get c account searchPath (searchParameters query limit)).run answer world).1 with
    | ok data =>
      dsimp only
      cases hdata : resultsOf account data with
      | ok results =>
        rintro _ ⟨⟩
        exact isReport_of_resultsOf hdata
      | error fault => exact nofun
    | error failure =>
      cases failure with
      | fetch message => exact ih _ _
      | _ => exact nofun

/-- Whatever comes back for its requests, the client gives an answer. -/
theorem search_isAnswer : IsAnswer ((search c query limit).run answer world).1 := by
  rw [search]
  cases ranked c.accounts with
  | nil => exact nofun
  | cons account rest => exact searchIn_isAnswer _ _ _

/-- Results of the client tell how many there are and who gave them. -/
theorem IsReport.endsWell_totalLine (h : IsReport results) (settings : Settings) :
    EndsWell (Table.totalLine settings results) := by
  obtain ⟨issues, total, name, host, color, rfl⟩ := h
  refine endsWell_bind_iff.2 ⟨_, rfl, endsWell_bind_iff.2 ⟨_, rfl, endsWell_bind_iff.2 ⟨_, rfl, ?_⟩⟩⟩
  cases settings.showColorBand with
  | true => exact endsWell_bind_iff.2 ⟨_, rfl, endsWell_ok _⟩
  | false => exact endsWell_ok _

end QueryFence.Jira
