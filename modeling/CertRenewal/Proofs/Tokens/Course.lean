import CertRenewal.Proofs.Faults
import CertRenewal.Proofs.Tokens.Rotation

/-!
# What a rotation of tokens asks

A rotation first establishes which tokens are to be rotated, and then goes round by round. A `Round`
is a token and what the server lists after its deletion; its exchanges are the deletion of the token,
the listing, and the deletions of the pods of the listing that mount the token. A `BrokenRound` ends
with the first question that is refused. `Rounds` puts them in order, and `Course` puts the opening
question in front of them, whose answer may end the rotation. What is listed goes by its name, or,
without one, by what its name was to start with (`Metadata.anyName`).

`every_rotate` says that every rotation takes such a course, whatever the answers, and
`Course.halting` that it ends at the first refusal. `rotate_stops_at_first_failure` is the main
statement.
-/

namespace CertRenewal

/-! ## Refusals -/

namespace Inventory

/-- The error that a question is answered with, if it is. -/
def Call.fault? : (call : Call) → call.Answer → Option Error
  | .listSecrets _, answer => CertRenewal.fault? answer
  | .getSecret _ _, answer => CertRenewal.fault? answer
  | .deleteSecret _ _, answer => CertRenewal.fault? answer
  | .listPods _, answer => CertRenewal.fault? answer
  | .deletePod _ _, answer => CertRenewal.fault? answer
  | .listNodes, answer => CertRenewal.fault? answer

def Call.isDeletion : Call → Bool
  | .deleteSecret _ _ | .deletePod _ _ => true
  | .listSecrets _ | .getSecret _ _ | .listPods _ | .listNodes => false

end Inventory

namespace Tokens

open CertRenewal.Cluster (Pod Secret)

abbrev Exchanged := Exchange Inventory.Call.Answer

/-- The error that an exchange ends with, if it does. -/
def refusal? (x : Exchanged) : Option Inventory.Error := x.call.fault? x.answer

def deletions (xs : List Exchanged) : List Inventory.Call :=
  (xs.map (·.call)).filter (·.isDeletion)

theorem deletions_append (xs ys : List Exchanged) :
    deletions (xs ++ ys) = deletions xs ++ deletions ys := by
  rw [deletions, deletions, deletions, List.map_append, List.filter_append]

/-- The deletions that a rotated token stands for: its secret, and then its pods. -/
def RotatedToken.deletions (namespace_ : String) (t : RotatedToken) : List Inventory.Call :=
  .deleteSecret namespace_ t.secret :: t.pods.map (.deletePod namespace_)

/-! ## Rounds -/

/-- A token, and the pods that are listed after its deletion. -/
structure Round where
  token : String
  listed : List Pod

namespace Round

def pods (r : Round) : List String :=
  (r.listed.filter fun pod => pod.HasVolume r.token).map (·.metadata.anyName)

def entry (r : Round) : RotatedToken := ⟨r.token, r.pods⟩

end Round

/-- The deletions of pods each of which is granted. -/
def podsDeleted (namespace_ : String) (names : List String) : List Exchanged :=
  names.map fun name => ⟨.deletePod namespace_ name, .ok ()⟩

/-- A round in which nothing is refused. -/
def Round.exchanges (namespace_ : String) (r : Round) : List Exchanged :=
  ⟨.deleteSecret namespace_ r.token, .ok ()⟩ :: ⟨.listPods namespace_, .ok r.listed⟩ ::
    podsDeleted namespace_ r.pods

/-- A round for a token that ends with a refusal: of the deletion of the token, of the listing, or
of the deletion of a pod after the deletions of those before it. -/
inductive BrokenRound (namespace_ token : String) : List Exchanged → Inventory.Error → Prop where
  | deletion (cause : Inventory.Error) :
      BrokenRound namespace_ token [⟨.deleteSecret namespace_ token, .error cause⟩] cause
  | listing (cause : Inventory.Error) :
      BrokenRound namespace_ token
        [⟨.deleteSecret namespace_ token, .ok ()⟩, ⟨.listPods namespace_, .error cause⟩] cause
  | pod (r : Round) {before after : List String} {name : String} (cause : Inventory.Error)
      (htoken : r.token = token) (hpods : r.pods = before ++ name :: after) :
      BrokenRound namespace_ token
        (⟨.deleteSecret namespace_ token, .ok ()⟩ :: ⟨.listPods namespace_, .ok r.listed⟩ ::
          (podsDeleted namespace_ before ++ [⟨.deletePod namespace_ name, .error cause⟩])) cause

/-- Rounds for tokens in their order, up to the first that is broken. -/
inductive Rounds (namespace_ : String) (tokens : List String) :
    List Exchanged → Except Error (List RotatedToken) → Prop where
  | complete (rounds : List Round) (htokens : rounds.map (·.token) = tokens) :
      Rounds namespace_ tokens (rounds.flatMap (Round.exchanges namespace_))
        (.ok (rounds.map Round.entry))
  | broken (rounds : List Round) {token : String} {rest : List String} {xs : List Exchanged}
      {cause : Inventory.Error} (htokens : tokens = rounds.map (·.token) ++ token :: rest)
      (hbroken : BrokenRound namespace_ token xs cause) :
      Rounds namespace_ tokens (rounds.flatMap (Round.exchanges namespace_) ++ xs)
        (.error (.inventory cause))

/-- The question with which a rotation begins, and the tokens that the answer establishes: the one of
a name, which must be of the type of tokens, or all that are listed, which must not be none. -/
inductive Opening (namespace_ : String) :
    Option String → List Exchanged → Except Error (List String) → Prop where
  | unread (name : String) (cause : Inventory.Error) :
      Opening namespace_ (some name) [⟨.getSecret namespace_ name, .error cause⟩]
        (.error (.inventory cause))
  | otherType (name : String) (secret : Secret)
      (htype : secret.type ≠ some "kubernetes.io/service-account-token") :
      Opening namespace_ (some name) [⟨.getSecret namespace_ name, .ok secret⟩]
        (.error (.notToken name))
  | one (name : String) (secret : Secret)
      (htype : secret.type = some "kubernetes.io/service-account-token") :
      Opening namespace_ (some name) [⟨.getSecret namespace_ name, .ok secret⟩] (.ok [name])
  | unlisted (cause : Inventory.Error) :
      Opening namespace_ none
        [⟨.listSecrets ⟨some namespace_, some "kubernetes.io/service-account-token"⟩,
          .error cause⟩]
        (.error (.inventory cause))
  | noTokens :
      Opening namespace_ none
        [⟨.listSecrets ⟨some namespace_, some "kubernetes.io/service-account-token"⟩, .ok []⟩]
        (.error (.noTokens namespace_))
  | listed (secrets : List Secret) (hsecrets : secrets ≠ []) :
      Opening namespace_ none
        [⟨.listSecrets ⟨some namespace_, some "kubernetes.io/service-account-token"⟩,
          .ok secrets⟩]
        (.ok (secrets.map (·.metadata.anyName)))

/-- The course of a rotation of the token of a name, or of all tokens of a namespace. There are no
rounds when the opening establishes no tokens. -/
inductive Course (namespace_ : String) (name? : Option String) :
    List Exchanged → Except Error (List RotatedToken) → Prop where
  | ended {xs : List Exchanged} {e : Error} (hopening : Opening namespace_ name? xs (.error e)) :
      Course namespace_ name? xs (.error e)
  | rounds {xs ys : List Exchanged} {tokens : List String}
      {result : Except Error (List RotatedToken)}
      (hopening : Opening namespace_ name? xs (.ok tokens))
      (hrounds : Rounds namespace_ tokens ys result) :
      Course namespace_ name? (xs ++ ys) result

/-! ## Every rotation takes a course -/

variable {σ : Type} {namespace_ : String}

/-- Pods are deleted in order, up to the first deletion that is refused. -/
inductive PodRun (namespace_ : String) (names : List String) :
    List Exchanged → Except Error (List String) → Prop where
  | complete : PodRun namespace_ names (podsDeleted namespace_ names) (.ok names)
  | refused (before : List String) {after : List String} {name : String} (cause : Inventory.Error)
      (hnames : names = before ++ name :: after) :
      PodRun namespace_ names
        (podsDeleted namespace_ before ++ [⟨.deletePod namespace_ name, .error cause⟩])
        (.error (.inventory cause))

/-- The pods are deleted in order, up to the first refusal. -/
theorem every_deletePods (names : List String) :
    (deletePods namespace_ names).Every (PodRun namespace_ names) := by
  induction names with
  | nil => exact .complete
  | cons name rest ih =>
    rw [deletePods_cons]
    intro answer
    cases answer with
    | error cause => exact .refused [] cause rfl
    | ok u =>
      refine ih.andThen_done ?_ ?_
      · intro xs e h
        cases h with
        | refused before cause hnames => exact .refused (name :: before) cause (by rw [hnames]; rfl)
      · intro xs names h
        cases h with
        | complete => exact .complete

/-- The pods that the program picks are those with the volume. -/
theorem mounting_eq_pods (r : Round) : mounting r.token r.listed = r.pods := by
  rw [mounting, Round.pods]
  exact congrArg _ (List.filter_congr fun pod _ => Pod.contains_volumeNames pod r.token)

/-- One token is rotated in a round, which may be broken. -/
inductive TokenRun (namespace_ token : String) :
    List Exchanged → Except Error RotatedToken → Prop where
  | complete (r : Round) (htoken : r.token = token) :
      TokenRun namespace_ token (r.exchanges namespace_) (.ok r.entry)
  | broken {xs : List Exchanged} {cause : Inventory.Error}
      (hbroken : BrokenRound namespace_ token xs cause) :
      TokenRun namespace_ token xs (.error (.inventory cause))

/-- A rotation of one token is a round, whatever the client answers. -/
theorem every_rotateOne (token : String) :
    (rotateOne namespace_ token).Every (TokenRun namespace_ token) := by
  rw [rotateOne_eq]
  intro answer
  cases answer with
  | error cause => exact .broken (.deletion cause)
  | ok u =>
    intro answer
    cases answer with
    | error cause => exact .broken (.listing cause)
    | ok pods =>
      have hpods := mounting_eq_pods ⟨token, pods⟩
      refine (every_deletePods (mounting token pods)).andThen_done ?_ ?_
      · intro xs e h
        cases h with
        | refused before cause hnames =>
          exact .broken (.pod ⟨token, pods⟩ cause rfl (hpods.symm.trans hnames))
      · intro xs names h
        cases h with
        | complete =>
          rw [hpods]
          exact .complete ⟨token, pods⟩ rfl

/-- A round comes before those of the other tokens. -/
theorem Rounds.cons (r : Round) {tokens : List String} {xs : List Exchanged}
    {result : Except Error (List RotatedToken)} (h : Rounds namespace_ tokens xs result) :
    Rounds namespace_ (r.token :: tokens) (r.exchanges namespace_ ++ xs)
      (result.map (r.entry :: ·)) := by
  cases h with
  | complete rounds htokens => exact .complete (r :: rounds) (by rw [List.map_cons, htokens])
  | broken rounds htokens hbroken =>
    rw [← List.append_assoc, ← List.flatMap_cons]
    exact .broken (r :: rounds) (by rw [htokens]; rfl) hbroken

/-- Tokens are rotated in rounds. The induction is on the tokens: a broken round is the last one, and
any other comes before those of the rest. -/
theorem every_rotateAll (tokens : List String) :
    (rotateAll namespace_ tokens).Every (Rounds namespace_ tokens) := by
  induction tokens with
  | nil => exact .complete [] rfl
  | cons token rest ih =>
    refine (every_rotateOne token).andThen ?_ ?_
    · intro xs e h
      cases h with
      | broken hbroken => exact .broken [] rfl hbroken
    · intro xs t h
      cases h with
      | complete r htoken =>
        subst htoken
        refine ih.andThen_done ?_ ?_
        · intro ys e hrest
          exact hrest.cons r
        · intro ys tokens hrest
          exact hrest.cons r

/-- A rotation begins with one question. -/
theorem every_tokenNames (name? : Option String) :
    (tokenNames namespace_ name?).Every (Opening namespace_ name?) := by
  cases name? with
  | some name =>
    rw [tokenNames_some]
    intro answer
    cases answer with
    | error cause => exact .unread name cause
    | ok secret =>
      show Opening namespace_ (some name) [⟨.getSecret namespace_ name, .ok secret⟩]
        (if secret.type = some tokenType then .ok [name] else .error (.notToken name))
      by_cases htype : secret.type = some tokenType
      · rw [if_pos htype]
        exact .one name secret htype
      · rw [if_neg htype]
        exact .otherType name secret htype
  | none =>
    rw [tokenNames_none]
    intro answer
    match answer with
    | .error cause => exact .unlisted cause
    | .ok [] => exact .noTokens
    | .ok (secret :: rest) => exact .listed (secret :: rest) (List.cons_ne_nil _ _)

/-- Every rotation takes a course. -/
theorem every_rotate (name? : Option String) :
    (rotate namespace_ name?).Every (Course namespace_ name?) := by
  refine (every_tokenNames name?).andThen ?_ ?_
  · intro xs e hopening
    exact .ended hopening
  · intro xs tokens hopening
    exact (every_rotateAll tokens).mono fun ys result hrounds => .rounds hopening hrounds

/-! ## Refusals end a rotation -/

/-- None of the exchanges is refused. -/
def Granted (xs : List Exchanged) : Prop := ∀ x ∈ xs, refusal? x = none

theorem Granted.append {xs ys : List Exchanged} (hxs : Granted xs) (hys : Granted ys) :
    Granted (xs ++ ys) :=
  List.forall_mem_append.mpr ⟨hxs, hys⟩

/-- Either nothing is refused, or the last exchange is the only one that is, and its error is the
result. -/
inductive Halting {α : Type} : List Exchanged → Except Error α → Prop where
  | granted {xs : List Exchanged} {result : Except Error α} (hgranted : Granted xs) :
      Halting xs result
  | refused (xs : List Exchanged) {x : Exchanged} {cause : Inventory.Error} (hgranted : Granted xs)
      (hrefused : refusal? x = some cause) : Halting (xs ++ [x]) (.error (.inventory cause))

namespace Halting

variable {α : Type} {xs ys : List Exchanged} {result : Except Error α}

theorem prepend (hxs : Granted xs) (h : Halting ys result) : Halting (xs ++ ys) result := by
  cases h with
  | granted hgranted => exact .granted (hxs.append hgranted)
  | refused xs hgranted hrefused =>
    rw [← List.append_assoc]
    exact .refused _ (hxs.append hgranted) hrefused

/-- What is refused is the last that is asked. -/
theorem last (h : Halting xs result) {before after : List Exchanged} {x : Exchanged}
    {cause : Inventory.Error} (hsplit : xs = before ++ x :: after)
    (hx : refusal? x = some cause) : after = [] ∧ result = .error (.inventory cause) := by
  cases h with
  | granted hgranted =>
    have hnone := hgranted x (by rw [hsplit]; exact List.mem_append_right _ List.mem_cons_self)
    rw [hnone] at hx
    cases hx
  | refused xs hgranted hrefused =>
    rcases after.eq_nil_or_concat with rfl | ⟨more, y, rfl⟩
    · obtain ⟨-, heq⟩ := List.append_inj' hsplit rfl
      cases heq
      rw [hx] at hrefused
      cases hrefused
      exact ⟨rfl, rfl⟩
    · rw [List.concat_eq_append, ← List.cons_append, ← List.append_assoc] at hsplit
      obtain ⟨rfl, -⟩ := List.append_inj' hsplit rfl
      have hnone := hgranted x (List.mem_append_right _ List.mem_cons_self)
      rw [hnone] at hx
      cases hx

end Halting

theorem granted_podsDeleted (namespace_ : String) (names : List String) :
    Granted (podsDeleted namespace_ names) := by
  intro x hx
  obtain ⟨name, -, rfl⟩ := List.mem_map.mp hx
  rfl

/-- The deletion of a token and the listing of the pods, when both are granted. -/
theorem granted_listing (namespace_ token : String) (pods : List Pod) :
    Granted [⟨.deleteSecret namespace_ token, .ok ()⟩, ⟨.listPods namespace_, .ok pods⟩] :=
  List.forall_mem_cons.mpr ⟨rfl, List.forall_mem_singleton.mpr rfl⟩

theorem Round.granted (r : Round) : Granted (r.exchanges namespace_) :=
  (granted_listing namespace_ r.token r.listed).append (granted_podsDeleted namespace_ r.pods)

theorem granted_rounds (rounds : List Round) :
    Granted (rounds.flatMap (Round.exchanges namespace_)) := by
  intro x hx
  obtain ⟨r, -, hx⟩ := List.mem_flatMap.mp hx
  exact r.granted x hx

theorem BrokenRound.halting {α : Type} {token : String} {xs : List Exchanged}
    {cause : Inventory.Error} (h : BrokenRound namespace_ token xs cause) :
    Halting xs (.error (.inventory cause) : Except Error α) := by
  cases h with
  | deletion cause => exact .refused [] (List.forall_mem_nil _) rfl
  | listing cause => exact .refused [_] (List.forall_mem_singleton.mpr rfl) rfl
  | pod r cause htoken hpods =>
    refine Halting.prepend (granted_listing namespace_ token r.listed) ?_
    exact .refused _ (granted_podsDeleted namespace_ _) rfl

/-- A refusal in any round ends all of them. -/
theorem Rounds.halting {tokens : List String} {xs : List Exchanged}
    {result : Except Error (List RotatedToken)} (h : Rounds namespace_ tokens xs result) :
    Halting xs result := by
  cases h with
  | complete rounds htokens => exact .granted (granted_rounds rounds)
  | broken rounds htokens hbroken => exact hbroken.halting.prepend (granted_rounds rounds)

/-- A course ends where something is refused. -/
theorem Course.halting {name? : Option String} {xs : List Exchanged}
    {result : Except Error (List RotatedToken)} (h : Course namespace_ name? xs result) :
    Halting xs result := by
  cases h with
  | ended hopening =>
    cases hopening with
    | unread name cause => exact .refused [] (List.forall_mem_nil _) rfl
    | otherType name secret htype => exact .granted (List.forall_mem_singleton.mpr rfl)
    | unlisted cause => exact .refused [] (List.forall_mem_nil _) rfl
    | noTokens => exact .granted (List.forall_mem_singleton.mpr rfl)
  | rounds hopening hrounds =>
    refine hrounds.halting.prepend ?_
    cases hopening with
    | one name secret htype => exact List.forall_mem_singleton.mpr rfl
    | listed secrets hsecrets => exact List.forall_mem_singleton.mpr rfl

/-! ## The report is what was deleted -/

theorem deletions_podsDeleted (namespace_ : String) (names : List String) :
    deletions (podsDeleted namespace_ names) = names.map (.deletePod namespace_) := by
  rw [deletions, podsDeleted, List.map_map]
  refine List.filter_eq_self.mpr fun call hcall => ?_
  obtain ⟨name, -, rfl⟩ := List.mem_map.mp hcall
  rfl

/-- What is reported of a round are the deletions that it asks for. -/
theorem deletions_exchanges (namespace_ : String) (r : Round) :
    deletions (r.exchanges namespace_) = r.entry.deletions namespace_ := by
  show .deleteSecret namespace_ r.token :: deletions (podsDeleted namespace_ r.pods) = _
  rw [deletions_podsDeleted]
  rfl

theorem deletions_rounds (namespace_ : String) (rounds : List Round) :
    deletions (rounds.flatMap (Round.exchanges namespace_)) =
      (rounds.map Round.entry).flatMap (RotatedToken.deletions namespace_) := by
  induction rounds with
  | nil => rfl
  | cons r rest ih =>
    rw [List.flatMap_cons, deletions_append, deletions_exchanges, ih, List.map_cons,
      List.flatMap_cons]

/-- Where a rotation succeeds, its report tells the deletions that were asked for, in their order. -/
theorem Course.deletions_eq {name? : Option String} {xs : List Exchanged}
    {tokens : List RotatedToken} (h : Course namespace_ name? xs (.ok tokens)) :
    deletions xs = tokens.flatMap (RotatedToken.deletions namespace_) := by
  cases h with
  | rounds hopening hrounds =>
    rw [deletions_append]
    cases hrounds with
    | complete rounds htokens =>
      rw [deletions_rounds]
      cases hopening with
      | one name secret htype => rfl
      | listed secrets hsecrets => rfl

/-- For every client, a rotation takes one of the courses. What is refused is the last that it asks,
and the error of its result. When it succeeds, its report is what it has deleted. -/
theorem rotate_stops_at_first_failure (client : (call : Inventory.Call) → σ → call.Answer × σ)
    (pause : Nat → σ → σ) (namespace_ : String) (name? : Option String) (s : σ) :
    let exchanges := (rotate namespace_ name?).transcript client pause s
    let result := ((rotate namespace_ name?).run client pause s).1
    Course namespace_ name? exchanges result ∧
    (∀ before x after cause, exchanges = before ++ x :: after → refusal? x = some cause →
      after = [] ∧ result = .error (.inventory cause)) ∧
    ∀ tokens, result = .ok tokens →
      deletions exchanges = tokens.flatMap (RotatedToken.deletions namespace_) := by
  intro exchanges result
  have hcourse : Course namespace_ name? exchanges result := (every_rotate name?).run client pause s
  refine ⟨hcourse, ?_, ?_⟩
  · intro before x after cause hsplit hx
    exact hcourse.halting.last hsplit hx
  · intro tokens htokens
    rw [htokens] at hcourse
    exact hcourse.deletions_eq

end Tokens

end CertRenewal
