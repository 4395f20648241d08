import CertRenewal.CommandLine.Words
import Mathlib.Data.List.Nodup

/-!
# Reading the options of a level

A level whose options each keep their own value reads a list of options, every one at most once, to
the values that stand in the list, whatever the order and whatever the values look like. A list in
which an option stands twice is refused at that option.
-/

namespace CertRenewal.CommandLine

open Level (isDashed isHelp)

def words (options : List (String × String)) : List String := options.flatMap fun o => [o.1, o.2]

@[simp] theorem words_cons (option : String × String) (options : List (String × String)) :
    words (option :: options) = option.1 :: option.2 :: words options := rfl

@[simp] theorem words_append (options others : List (String × String)) :
    words (options ++ others) = words options ++ words others := List.flatMap_append

/-- A list of options states the values of a level: each option at most once, and every value that
is not stated is a default. -/
structure Lists (options : List (String × String)) (values defaults : String → Option String) :
    Prop where
  once : (options.map Prod.fst).Nodup
  value (name : String) : values name = (options.lookup name).or (defaults name)

/-- One list of options is another with a second value for an option, wherever that stands. -/
def Repeats (name : String) (options longer : List (String × String)) : Prop :=
  name ∈ options.map Prod.fst ∧ ∃ before after value,
    options = before ++ after ∧ longer = before ++ (name, value) :: after

theorem lookup_cons (option : String × String) (options : List (String × String))
    (name : String) :
    (option :: options).lookup name =
      if name = option.1 then some option.2 else options.lookup name := by
  obtain ⟨first, value⟩ := option
  by_cases h : name = first
  · simp [h]
  · simp [List.lookup_cons, h, beq_false_of_ne h]

/-- In a list that names each option at most once, an option has the value it is listed with. -/
theorem lookup_of_mem {options : List (String × String)} (honce : (options.map Prod.fst).Nodup)
    {option : String × String} (hmem : option ∈ options) :
    options.lookup option.1 = some option.2 := by
  induction options with
  | nil => cases hmem
  | cons first options ih =>
    obtain ⟨hfirst, honce⟩ := List.nodup_cons.mp honce
    rw [lookup_cons]
    rcases List.mem_cons.mp hmem with rfl | hmem
    · rw [if_pos rfl]
    · have hne : option.1 ≠ first.1 := fun h => hfirst (h ▸ List.mem_map_of_mem hmem)
      rw [if_neg hne, ih honce hmem]

/-- A name that is not listed has no value in the list. -/
theorem lookup_eq_none {options : List (String × String)} {name : String} :
    options.lookup name = none ↔ name ∉ options.map Prod.fst := by
  rw [List.lookup_eq_none_iff, List.mem_map]
  grind

/-- The values of listed options are the listed ones. -/
theorem Lists.value_of_mem {options : List (String × String)}
    {values defaults : String → Option String} (h : Lists options values defaults)
    {option : String × String} (hmem : option ∈ options) : values option.1 = some option.2 := by
  rw [h.value, lookup_of_mem h.once hmem, Option.some_or]

/-! ## One option -/

/-- A word that is taken for the name of an option. -/
structure IsOption (word : String) : Prop where
  dashed : isDashed word = true
  notHelp : isHelp word = false
  notEnd : word ≠ "--"

instance (word : String) : Decidable (IsOption word) :=
  decidable_of_iff (isDashed word = true ∧ isHelp word = false ∧ word ≠ "--")
    ⟨fun ⟨hd, hh, he⟩ => ⟨hd, hh, he⟩, fun ⟨hd, hh, he⟩ => ⟨hd, hh, he⟩⟩

variable {σ ρ : Type} {l : Level σ ρ} {g g' : σ} {name value : String}
  {set : String → σ → Except ValueError σ}

/-- The word behind the name of an option is its value, whatever that word is. -/
theorem Level.readFrom_option (hname : IsOption name) (hset : l.setter name = some set)
    (hvalue : set value g = .ok g') (rest : List String) :
    l.readFrom false false g (name :: value :: rest) = l.readFrom false false g' rest := by
  rw [Level.readFrom.eq_def l false false g (name :: value :: rest)]
  simp [hname.dashed, hname.notHelp, hname.notEnd, hset, hvalue]

/-- An option whose value is refused ends the reading. -/
theorem Level.readFrom_refused {cause : ValueError} (hname : IsOption name)
    (hset : l.setter name = some set) (hvalue : set value g = .error cause) (rest : List String) :
    l.readFrom false false g (name :: value :: rest) =
      .error (.usage (.badValue name value cause)) := by
  rw [Level.readFrom.eq_def l false false g (name :: value :: rest)]
  simp [hname.dashed, hname.notHelp, hname.notEnd, hset, hvalue]

/-- The option `name` keeps a value among the values that have been read, `value? g name` being the
one that it has in the values `g`. -/
structure Kept (value? : σ → String → Option String) (name : String)
    (set : String → σ → Except ValueError σ) : Prop where
  isOption : IsOption name
  /-- A second value is refused. -/
  given {g : σ} {first value : String} : value? g name = some first →
    set value g = .error .duplicate
  /-- A first value is taken if the option can have it. -/
  accepts {g possible : σ} {value : String} : value? g name = none →
    value? possible name = some value → ∃ g', set value g = .ok g'
  /-- What is taken is the value itself, and no other option changes. -/
  updated {g g' : σ} {value : String} : set value g = .ok g' →
    ∀ other, value? g' other = if other = name then some value else value? g other

/-- The options of a level each keep a value of their own. -/
structure Keeps (setter : String → Option (String → σ → Except ValueError σ))
    (value? : σ → String → Option String) : Prop where
  /-- Only an option has a value. -/
  known {g : σ} {name value : String} : value? g name = some value → ∃ set, setter name = some set
  kept {name : String} {set} : setter name = some set → Kept value? name set

variable {value? : σ → String → Option String} {options before after : List (String × String)}

/-- An option whose value is read into a field of its own keeps it. -/
theorem Kept.once {get : σ → Option α} {put : σ → α → σ} {read : String → Except ValueError α}
    (write : α → String) (hname : IsOption name)
    (hread : ∀ {word a}, read word = .ok a ↔ word = write a)
    (hget : ∀ g, value? g name = (get g).map write)
    (hput : ∀ g a other,
      value? (put g a) other = if other = name then some (write a) else value? g other) :
    Kept value? name fun value g => do
      if (get g).isSome then throw .duplicate
      return put g (← read value) where
  isOption := hname
  given {g first value} h := by
    rw [hget] at h
    cases hg : get g with
    | none => simp [hg] at h
    | some a => rfl
  accepts {g possible value} h hpossible := by
    rw [hget, Option.map_eq_none_iff] at h
    rw [hget, Option.map_eq_some_iff] at hpossible
    obtain ⟨a, -, rfl⟩ := hpossible
    exact ⟨put g a, by rw [h, hread.mpr rfl]; rfl⟩
  updated {g g' value} h other := by
    cases hg : get g with
    | some a => rw [hg] at h; cases h
    | none =>
      cases hvalue : read value with
      | error cause => rw [hg, hvalue] at h; cases h
      | ok a =>
        rw [hg, hvalue] at h
        cases h
        rw [hput, hread.mp hvalue]

/-- An option whose value is a text in a field of its own keeps it. -/
theorem Kept.text {get : σ → Option String} {put : σ → Option String → σ} (hname : IsOption name)
    (hget : ∀ g, value? g name = get g)
    (hput : ∀ g value other,
      value? (put g (some value)) other = if other = name then some value else value? g other) :
    Kept value? name fun value g => do return put g (← setOnce (get g) value) := by
  have hset : (fun (value : String) (g : σ) => do return put g (← setOnce (get g) value)) =
      fun value g => do
        if (get g).isSome then throw ValueError.duplicate
        return put g (some (← pure value)) := by
    funext value g
    cases get g <;> rfl
  rw [hset]
  exact .once id hname (by simp [pure, Except.pure]) (by simp [hget]) hput

/-! ## A list of options -/

/-- Options that can be given to a level with the values `g`: each once, none of them with a value
yet, each with a value that it can have. -/
structure Fresh (value? : σ → String → Option String) (g : σ) (options : List (String × String)) :
    Prop where
  once : (options.map Prod.fst).Nodup
  new : ∀ o ∈ options, value? g o.1 = none
  possible : ∀ o ∈ options, ∃ possible, value? possible o.1 = some o.2

/-- Some of the options can be given, also when others have been given in between. -/
theorem Fresh.sublist (h : Fresh value? g options) (hsub : before.Sublist options)
    (hsame : ∀ o ∈ before, value? g' o.1 = value? g o.1) : Fresh value? g' before where
  once := h.once.sublist (hsub.map _)
  new o ho := (hsame o ho).trans (h.new o (hsub.subset ho))
  possible o ho := h.possible o (hsub.subset ho)

/-- Before any option is given, the options that state the values of a level can be. -/
theorem Lists.fresh {full : σ} {defaults : String → Option String}
    (h : Lists options (value? full) defaults) (hnone : ∀ name, value? g name = none) :
    Fresh value? g options where
  once := h.once
  new o _ := hnone o.1
  possible _ ho := ⟨full, h.value_of_mem ho⟩

/-- When one of the options is given, the others can still be given. -/
theorem Fresh.others {option : String × String} (h : Fresh value? g (before ++ option :: after))
    (hupdated : ∀ other, value? g' other = if other = option.1 then some value else value? g other) :
    Fresh value? g' (before ++ after) := by
  have hsub : (before ++ after).Sublist (before ++ option :: after) :=
    (List.sublist_cons_self ..).append_left _
  have honce := h.once
  rw [List.map_append, List.map_cons, List.nodup_middle, ← List.map_append,
    List.nodup_cons] at honce
  refine h.sublist hsub fun o ho => ?_
  have hne : o.1 ≠ option.1 := fun heq => honce.1 (heq ▸ List.mem_map_of_mem ho)
  rw [hupdated, if_neg hne]

/-- When the first options are given, those behind them can still be given. -/
theorem Fresh.behind (h : Fresh value? g (before ++ after))
    (hg' : ∀ name, value? g' name = (before.lookup name).or (value? g name)) :
    Fresh value? g' after := by
  have honce := h.once
  rw [List.map_append, List.nodup_append'] at honce
  refine h.sublist (List.sublist_append_right ..) fun o ho => ?_
  rw [hg', lookup_eq_none.mpr fun hmem => honce.2.2 hmem (List.mem_map_of_mem ho), Option.none_or]

namespace Keeps

/-- Options that can be given are read to their values, and no others change. -/
theorem readFrom_words (k : Keeps l.setter value?) (h : Fresh value? g options)
    (rest : List String) :
    ∃ g', l.readFrom false false g (words options ++ rest) = l.readFrom false false g' rest ∧
      ∀ name, value? g' name = (options.lookup name).or (value? g name) := by
  induction options generalizing g with
  | nil => exact ⟨g, rfl, fun name => by simp⟩
  | cons option options ih =>
    obtain ⟨hoption, -⟩ := List.nodup_cons.mp h.once
    obtain ⟨possible, hvalue⟩ := h.possible option List.mem_cons_self
    obtain ⟨set, hset⟩ := k.known hvalue
    have hkept := k.kept hset
    obtain ⟨g₁, hg₁⟩ := hkept.accepts (h.new option List.mem_cons_self) hvalue
    have hupdated := hkept.updated hg₁
    have hrest : Fresh value? g₁ ([] ++ options) := Fresh.others h hupdated
    obtain ⟨g', hread, hg'⟩ := ih hrest
    refine ⟨g', (Level.readFrom_option hkept.isOption hset hg₁ _).trans hread, fun name => ?_⟩
    rw [hg', hupdated, lookup_cons]
    by_cases hname : name = option.1
    · simp [hname, lookup_eq_none.mpr hoption]
    · simp [hname]

/-- An option that has a value is refused, also behind other options. -/
theorem readFrom_given (k : Keeps l.setter value?) (h : Fresh value? g before)
    (hset : l.setter name = some set) {first : String} (hgiven : value? g name = some first)
    (value : String) (rest : List String) :
    l.readFrom false false g (words before ++ name :: value :: rest) =
      .error (.usage (.badValue name value .duplicate)) := by
  obtain ⟨g', hread, hg'⟩ := k.readFrom_words h (name :: value :: rest)
  obtain ⟨first, hfirst⟩ : ∃ first, value? g' name = some first := by
    rw [hg', hgiven]
    cases before.lookup name <;> simp
  exact hread.trans
    (Level.readFrom_refused (k.kept hset).isOption hset ((k.kept hset).given hfirst) rest)

/-- An option that stands ahead of a list with the same option is refused. -/
theorem readFrom_ahead (k : Keeps l.setter value?) (h : Fresh value? g options)
    {option : String × String} (hmem : option ∈ options) (hset : l.setter option.1 = some set)
    (value : String) (rest : List String) :
    ∃ refused cause, l.readFrom false false g (option.1 :: value :: (words options ++ rest)) =
      .error (.usage (.badValue option.1 refused cause)) := by
  have hkept := k.kept hset
  rcases hvalue : set value g with cause | g'
  · exact ⟨value, cause, Level.readFrom_refused hkept.isOption hset hvalue _⟩
  · have hupdated := hkept.updated hvalue
    obtain ⟨front, back, rfl⟩ := List.append_of_mem hmem
    have hfront : Fresh value? g' front :=
      (h.others hupdated).sublist (List.sublist_append_left ..) fun _ _ => rfl
    refine ⟨option.2, .duplicate, ?_⟩
    rw [Level.readFrom_option hkept.isOption hset hvalue, words_append, words_cons,
      List.append_assoc]
    exact k.readFrom_given hfront hset (by rw [hupdated, if_pos rfl]) _ _

/-- An option that stands twice in a list is refused. -/
theorem readFrom_twice (k : Keeps l.setter value?) (h : Fresh value? g options)
    {longer : List (String × String)} (hrepeats : Repeats name options longer)
    (rest : List String) :
    ∃ refused cause, l.readFrom false false g (words longer ++ rest) =
      .error (.usage (.badValue name refused cause)) := by
  obtain ⟨hname, before, after, value, rfl, rfl⟩ := hrepeats
  obtain ⟨listed, hlisted, rfl⟩ := List.mem_map.mp hname
  obtain ⟨possible, hpossible⟩ := h.possible listed hlisted
  obtain ⟨set, hset⟩ := k.known hpossible
  have hbefore : Fresh value? g before := h.sublist (List.sublist_append_left ..) fun _ _ => rfl
  obtain ⟨g₁, hread, hg₁⟩ := k.readFrom_words hbefore (words ((listed.1, value) :: after) ++ rest)
  rw [words_append, List.append_assoc, hread]
  rcases hgiven : value? g₁ listed.1 with _ | first
  · -- The option is not listed before, so it is listed after.
    have hlookup : before.lookup listed.1 = none := (Option.or_eq_none_iff.mp (hg₁ _ ▸ hgiven)).1
    have hafter : listed ∈ after := (List.mem_append.mp hlisted).resolve_left fun hmem =>
      lookup_eq_none.mp hlookup (List.mem_map_of_mem hmem)
    exact k.readFrom_ahead (h.behind hg₁) hafter hset value rest
  · have hkept := k.kept hset
    exact ⟨value, .duplicate, Level.readFrom_refused hkept.isOption hset (hkept.given hgiven) _⟩

/-- Options that state the values `full` are read to values that, with the defaults of the options
that are not listed, are those of `full`. -/
theorem read_listed (k : Keeps l.setter value?) {full : σ} {defaults : String → Option String}
    (h : Lists options (value? full) defaults) (hnone : ∀ name, value? g name = none)
    (rest : List String) :
    ∃ g', l.read g (words options ++ rest) = l.readFrom false false g' rest ∧
      ∀ name, value? full name = (value? g' name).or (defaults name) := by
  obtain ⟨g', hread, hg'⟩ := k.readFrom_words (h.fresh hnone) rest
  refine ⟨g', hread, fun name => ?_⟩
  rw [h.value, hg', hnone, Option.or_none]

/-- In options that state the values `full`, one that stands twice is refused. -/
theorem read_twice (k : Keeps l.setter value?) {full : σ} {defaults : String → Option String}
    (h : Lists options (value? full) defaults) (hnone : ∀ name, value? g name = none)
    {longer : List (String × String)} (hrepeats : Repeats name options longer)
    (rest : List String) :
    ∃ refused cause, l.read g (words longer ++ rest) =
      .error (.usage (.badValue name refused cause)) :=
  k.readFrom_twice (h.fresh hnone) hrepeats rest

end Keeps

end CertRenewal.CommandLine
