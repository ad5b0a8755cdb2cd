import DialogueQuery.Proofs.Aggregation.Stages
import DialogueQuery.Proofs.Store.Attempts

/-! Looking up one conversation of a project. The store decides by the identifiers
as they are stored, and the one that is found gets its identifier as text. -/

namespace DialogueQuery

namespace Document

theorem equal_str {d : Document} {s : String} : d.equal (.str s) = true ↔ d = .str s := by
  cases d with
  | str t => simp
  | _ => simp [equal, isNull, equalNumbers, numeral?]

theorem equal_objectId {d : Document} {hex : String} :
    d.equal (.objectId hex) = true ↔ d = .objectId hex := by
  cases d with
  | objectId s => simp [equal]
  | _ => simp [equal, isNull, equalNumbers, numeral?]

theorem exists_members_of_follow {d v : Document} {name : String} (h : d.follow [name] = v)
    (hv : v.isNull = false) : ∃ members, d = .obj members ∧ members.lookup name = some v := by
  cases d with
  | obj members =>
    refine ⟨members, rfl, ?_⟩
    cases hl : members.lookup name with
    | some u => simpa [hl] using h
    | none =>
      subst h
      simp [hl, isNull] at hv
  | _ =>
    subst h
    simp [member?, isNull] at hv

theorem setMember_of_lookup {name : String} {value : Document} {members : Members}
    (h : members.lookup name = some value) : setMember name value members = members := by
  induction members with
  | nil => cases h
  | cons m rest ih =>
    obtain ⟨k, v⟩ := m
    rw [lookup_cons_ite] at h
    by_cases hk : k = name
    · subst hk
      rw [if_pos rfl] at h
      simp [setMember, Option.some.inj h]
    · rw [if_neg (Ne.symm hk)] at h
      simp [setMember, hk, ih h]

end Document

namespace Conversation

/-- The identifier as text, whether it is stored as one or made by the store. -/
def idText? (d : Document) : Option String :=
  match d.member? "_id" with
  | some (.str s) => some s
  | some (.objectId hex) => some hex
  | _ => none

def withId (members : Members) : Members :=
  match members.lookup "_id" with
  | some (.objectId hex) => Document.setMember "_id" (.str hex) members
  | _ => members

theorem withId_eq {members : Members} {t : String} (h : idText? (.obj members) = some t) :
    withId members = Document.setMember "_id" (.str t) members := by
  rw [idText?, Document.member?_obj] at h
  unfold withId
  split at h
  · next s hs =>
    cases h
    rw [Document.setMember_of_lookup hs, hs]
  · next hex hhex =>
    cases h
    rw [hhex]
  · cases h

end Conversation

namespace ConversationStore

open Conversation

theorem withTextId_obj (members : Members) :
    withTextId (.obj members) = .ok (.obj (withId members)) := by
  unfold withTextId withId
  cases hl : members.lookup "_id" with
  | none => simp [Document.get, hl]
  | some id => cases id <;> simp [Document.get, hl]

/-- What a conversation has to meet to be the one that is asked for. -/
def lookupQuery (project conversation sender : Document) : List (List String × Document) :=
  [(["projectId"], project),
    if sender.isTruthy then (["tracker", "sender_id"], sender) else (["_id"], conversation)]

/-- The answer of the store to the lookup. -/
def found (store : ConversationStore) (w : World) (project conversation sender : Document) :
    Option Document :=
  (w.collection store.collection).documents.find?
    (Session.meets (lookupQuery project conversation sender))

theorem exists_members_of_found {store : ConversationStore} {w : World} {project : String}
    {conversation sender d : Document}
    (h : store.found w (.str project) conversation sender = some d) :
    ∃ members, d = .obj members ∧ members.lookup "projectId" = some (.str project) := by
  have hmeets := List.find?_some h
  rw [Session.meets, lookupQuery, List.all_cons, Bool.and_eq_true, Document.equal_str] at hmeets
  exact Document.exists_members_of_follow hmeets.1 rfl

theorem findOne_result (store : ConversationStore) (project : String)
    (conversation sender : Document) (w : World) :
    ((store.findOne (.str project) conversation sender).run.run w).1 =
      match (w.collection store.collection).lookupError with
      | some e => .error (.ofBreakdown "Failed to get conversation" e)
      | none => match store.found w (.str project) conversation sender with
        | some (.obj members) => .ok (some (.obj (withId members)))
        | _ => .ok none := by
  obtain ⟨logs, hrun⟩ := Action.run_guarded .repository
    ("Failed to get conversation " ++ (conversation.orElse sender).display)
    "Failed to get conversation"
    (Session.findOne store.collection (lookupQuery (.str project) conversation sender) none) w
  rw [Session.findOne_result] at hrun
  unfold lookupQuery at hrun
  unfold findOne
  rw [Action.run_bind, hrun]
  cases (w.collection store.collection).lookupError with
  | some e => rfl
  | none =>
    cases hf : store.found w (.str project) conversation sender with
    | none =>
      unfold found lookupQuery at hf
      simp only [Option.elim, hf, mapError_ok]
      rfl
    | some d =>
      obtain ⟨members, rfl, hproject⟩ := exists_members_of_found hf
      have hne : (Document.obj members).isTruthy = true := by
        cases members with
        | nil => cases hproject
        | cons m rest => rfl
      unfold found lookupQuery at hf
      simp only [Option.elim, hf, mapError_ok, Option.filter, hne, if_true, withTextId_obj]
      rfl

end ConversationStore

namespace Service

open ConversationStore Conversation

/-- What a lookup comes to: the failure of its only call, or the conversation that
is found, or that there is none. -/
theorem find_result (s : Service) (project : String) (conversation sender : Document) (w : World) :
    ((s.find (.str project) conversation sender).run.run w).1 =
      match (w.collection s.conversations.collection).lookupError with
      | some e => .error (.ofBreakdown "Failed to get conversation" e)
      | none => match s.conversations.found w (.str project) conversation sender with
        | some (.obj members) => .ok (.obj (withId members))
        | _ => .error (.notFound (sender.orElse conversation)) := by
  have hresult := s.conversations.findOne_result project conversation sender w
  rw [find, Action.run_bind]
  generalize (s.conversations.findOne (.str project) conversation sender).run.run w = r at hresult
  obtain ⟨r, w'⟩ := r
  obtain rfl : r = _ := hresult
  cases (w.collection s.conversations.collection).lookupError with
  | some e => rfl
  | none =>
    cases hf : s.conversations.found w (.str project) conversation sender with
    | none => rfl
    | some d =>
      obtain ⟨members, rfl, -⟩ := exists_members_of_found hf
      rfl

theorem exists_members_of_find {s : Service} {project : String} {conversation sender d : Document}
    {w : World} (h : ((s.find (.str project) conversation sender).run.run w).1 = .ok d) :
    ∃ members, d = .obj members := by
  rw [find_result] at h
  split at h
  · cases h
  · split at h
    · next members _ => exact ⟨withId members, (Except.ok.inj h).symm⟩
    · cases h

/-- A conversation is not found if the lookup succeeds and nothing meets it. -/
theorem find_notFound_iff {s : Service} {project : String} {conversation sender who : Document}
    {w : World} :
    ((s.find (.str project) conversation sender).run.run w).1 = .error (.notFound who) ↔
      (w.collection s.conversations.collection).lookupError = none ∧
        s.conversations.found w (.str project) conversation sender = none ∧
        who = sender.orElse conversation := by
  rw [find_result]
  cases (w.collection s.conversations.collection).lookupError with
  | some e =>
    have hne : Failure.ofBreakdown "Failed to get conversation" e ≠ .notFound who := by
      unfold Failure.ofBreakdown
      split <;> simp
    simp [hne]
  | none =>
    cases hf : s.conversations.found w (.str project) conversation sender with
    | none => simp [eq_comm]
    | some d =>
      obtain ⟨members, rfl, -⟩ := exists_members_of_found hf
      simp

end Service

end DialogueQuery
