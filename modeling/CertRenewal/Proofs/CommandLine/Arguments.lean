import CertRenewal.CommandLine.Arguments
import CertRenewal.Proofs.CommandLine.Options

/-!
# Arguments as a command line

A command line lists the options of the program, then the name of a command, then the options of
that command. However the options of each level are ordered, whatever their values look like and
whichever defaults are left out, the command line is read to the arguments that it lists.
-/

namespace CertRenewal.CommandLine

/-! ## Values that are read -/

def boolName : Bool → String
  | true => "true"
  | false => "false"

/-- Only the two words are read as a Boolean, in lower case. -/
theorem readBool_eq_ok_iff {word : String} {b : Bool} :
    readBool word = .ok b ↔ word = boolName b := by
  unfold readBool
  split <;> cases b <;> simp_all [boolName]

/-- A format is read by its own name only. -/
theorem readFormat_eq_ok_iff {word : String} {format : Report.Format} :
    readFormat word = .ok format ↔ word = format.name := by
  unfold readFormat Report.Format.ofName?
  cases format <;> simp only [Report.Format.name] <;> grind

theorem boolName_injective {a b : Bool} (h : boolName a = boolName b) : a = b := by
  cases a <;> cases b <;> simp_all [boolName]

theorem formatName_injective {a b : Report.Format} (h : a.name = b.name) : a = b := by
  cases a <;> cases b <;> simp_all [Report.Format.name]

/-! ## A level without commands -/

section Leaf

variable {σ : Type} {setter : String → Option (String → σ → Except ValueError σ)}
  {value? : σ → String → Option String} {g full : σ} {defaults : String → Option String}
  {name : String} {options longer : List (String × String)}

/-- Options that state the values `full` are all that is read behind a command. -/
theorem Keeps.leaf_listed (k : Keeps setter value?) (help : String)
    (h : Lists options (value? full) defaults) (hnone : ∀ name, value? g name = none) :
    ∃ g', (leaf help setter).read g (words options) = .ok (g', none) ∧
      ∀ name, value? full name = (value? g' name).or (defaults name) := by
  have hlevel : Keeps (leaf help setter).setter value? := k
  obtain ⟨g', hread, hg'⟩ := hlevel.read_listed h hnone []
  rw [List.append_nil] at hread
  exact ⟨g', hread, hg'⟩

/-- An option that stands twice behind a command is refused. -/
theorem Keeps.leaf_twice (k : Keeps setter value?) (help : String)
    (h : Lists options (value? full) defaults) (hnone : ∀ name, value? g name = none)
    (hrepeats : Repeats name options longer) :
    ∃ refused cause, (leaf help setter).read g (words longer) =
      .error (.usage (.badValue name refused cause)) := by
  have hlevel : Keeps (leaf help setter).setter value? := k
  obtain ⟨refused, cause, hread⟩ := hlevel.read_twice h hnone hrepeats []
  rw [List.append_nil] at hread
  exact ⟨refused, cause, hread⟩

end Leaf

/-! ## The options of the commands -/

namespace RenewCerts

variable {options longer : List (String × String)} {name : String}

def Given.value? (g : Given) : String → Option String
  | "--expiration-threshold" => g.expirationThreshold
  | "--renew-in-place" => g.renewInPlace.map boolName
  | "--image" => g.image
  | _ => none

def given (r : RenewCerts) : Given := ⟨some r.expirationThreshold, some r.renewInPlace, r.image⟩

def defaults : Given := ⟨some "24h", some true, none⟩

theorem value?_none (name : String) : Given.value? ⟨none, none, none⟩ name = none := by
  unfold Given.value?
  split <;> rfl

theorem keeps : Keeps setter Given.value? where
  known {g name value} h := by
    unfold Given.value? at h
    split at h <;> simp_all [setter]
  kept {name set} h := by
    unfold setter at h
    split at h <;> cases h
    · exact .text (by decide) (fun _ => rfl) (by grind [Given.value?.eq_def])
    · exact .once boolName (by decide) readBool_eq_ok_iff (fun _ => rfl)
        (by grind [Given.value?.eq_def])
    · exact .text (by decide) (fun _ => rfl) (by grind [Given.value?.eq_def])

/-- An option that is not given has its default. -/
theorem value?_ofGiven (g : Given) (name : String) :
    (ofGiven g).given.value? name = (g.value? name).or (defaults.value? name) := by
  unfold Given.value?
  obtain ⟨threshold, inPlace, image⟩ := g
  split <;> cases threshold <;> cases inPlace <;> simp [ofGiven, given, defaults]

/-- The options have different values if anything differs. -/
theorem ext_value? {r s : RenewCerts} (h : ∀ name, r.given.value? name = s.given.value? name) :
    r = s := by
  have hthreshold := h "--expiration-threshold"
  have hinPlace := h "--renew-in-place"
  have himage := h "--image"
  obtain ⟨_, _, _⟩ := r
  obtain ⟨_, _, _⟩ := s
  simp only [Given.value?, given, Option.map_some, Option.some_inj] at hthreshold hinPlace himage
  rw [hthreshold, boolName_injective hinPlace, himage]

/-- Options that are listed in any order are read as they state. -/
theorem parse_listed {r : RenewCerts} (h : Lists options r.given.value? defaults.value?) :
    parse (words options) = .ok r := by
  obtain ⟨g, hread, hg⟩ := keeps.leaf_listed Help.renewCerts h value?_none
  have hr : ofGiven g = r := ext_value? fun name => (value?_ofGiven g name).trans (hg name).symm
  rw [parse, hread, ← hr]
  rfl

end RenewCerts

namespace CheckExpiration

variable {options longer : List (String × String)} {name : String}

def Given.value? (g : Given) : String → Option String
  | "--duration" => g.duration
  | "--output" => g.output.map Report.Format.name
  | _ => none

def given (c : CheckExpiration) : Given := ⟨some c.duration, some c.output⟩

def defaults : Given := ⟨some "30", some .table⟩

theorem value?_none (name : String) : Given.value? ⟨none, none⟩ name = none := by
  unfold Given.value?
  split <;> rfl

theorem keeps : Keeps setter Given.value? where
  known {g name value} h := by
    unfold Given.value? at h
    split at h <;> simp_all [setter]
  kept {name set} h := by
    unfold setter at h
    split at h <;> cases h
    · exact .text (by decide) (fun _ => rfl) (by grind [Given.value?.eq_def])
    · exact .once Report.Format.name (by decide) readFormat_eq_ok_iff (fun _ => rfl)
        (by grind [Given.value?.eq_def])

theorem value?_ofGiven (g : Given) (name : String) :
    (ofGiven g).given.value? name = (g.value? name).or (defaults.value? name) := by
  unfold Given.value?
  obtain ⟨duration, output⟩ := g
  split <;> cases duration <;> cases output <;> simp [ofGiven, given, defaults]

/-- Checks with the same values of their options are the same. -/
theorem ext_value? {c d : CheckExpiration} (h : ∀ name, c.given.value? name = d.given.value? name) :
    c = d := by
  have hduration := h "--duration"
  have houtput := h "--output"
  obtain ⟨_, _⟩ := c
  obtain ⟨_, _⟩ := d
  simp only [Given.value?, given, Option.map_some, Option.some_inj] at hduration houtput
  rw [hduration, formatName_injective houtput]

theorem parse_listed {c : CheckExpiration} (h : Lists options c.given.value? defaults.value?) :
    parse (words options) = .ok c := by
  obtain ⟨g, hread, hg⟩ := keeps.leaf_listed Help.checkExpiration h value?_none
  have hc : ofGiven g = c := ext_value? fun name => (value?_ofGiven g name).trans (hg name).symm
  rw [parse, hread, ← hc]
  rfl

end CheckExpiration

namespace ResetToken

variable {options longer : List (String × String)} {name : String}

def Given.value? (g : Given) : String → Option String
  | "--namespace" => g.namespace_
  | "--secret-name" => g.secretName
  | _ => none

def given (t : ResetToken) : Given := ⟨some t.namespace_, t.secretName⟩

theorem value?_none (name : String) : Given.value? ⟨none, none⟩ name = none := by
  unfold Given.value?
  split <;> rfl

theorem keeps : Keeps setter Given.value? where
  known {g name value} h := by
    unfold Given.value? at h
    split at h <;> simp_all [setter]
  kept {name set} h := by
    unfold setter at h
    split at h <;> cases h
    all_goals exact .text (by decide) (fun _ => rfl) (by grind [Given.value?.eq_def])

theorem Given.ext_value? {g h : Given} (hvalue : ∀ name, g.value? name = h.value? name) :
    g = h := by
  obtain ⟨_, _⟩ := g
  obtain ⟨_, _⟩ := h
  have hnamespace := hvalue "--namespace"
  have hsecretName := hvalue "--secret-name"
  simp only [Given.value?] at hnamespace hsecretName
  rw [hnamespace, hsecretName]

theorem parse_listed {t : ResetToken} (h : Lists options t.given.value? fun _ => none) :
    parse (words options) = .ok t := by
  obtain ⟨g, hread, hg⟩ := keeps.leaf_listed Help.resetToken h value?_none
  have ht : g = t.given := Given.ext_value? fun name => by rw [hg, Option.or_none]
  rw [parse, hread, ht]
  rfl

end ResetToken

/-! ## Commands -/

namespace Command

def name : Command → String
  | .renewCerts _ => "renew-certs"
  | .checkExpiration _ => "check-expiration"
  | .resetToken _ => "reset-sa-token"

def value? : Command → String → Option String
  | .renewCerts r => r.given.value?
  | .checkExpiration c => c.given.value?
  | .resetToken t => t.given.value?

/-- The value that an option of a command has when it is left out. -/
def default? : Command → String → Option String
  | .renewCerts _ => RenewCerts.defaults.value?
  | .checkExpiration _ => CheckExpiration.defaults.value?
  | .resetToken _ => fun _ => none

/-- The word for a command is not taken for an option. -/
theorem readFrom_name (command : Command) {σ : Type} {l : Level σ Command} {g : σ}
    {read : List String → Except Stop Command} (hread : l.command command.name = some read)
    (rest : List String) :
    l.readFrom false false g (command.name :: rest) =
      (read rest).map fun result => (g, some result) := by
  have hhelp : Level.isHelp command.name = false := by cases command <;> rfl
  have hend : (command.name == "--") = false := by cases command <;> rfl
  have hdashed : Level.isDashed command.name = false := by
    cases command <;> simp [name, Level.isDashed]
  rw [Level.readFrom.eq_def]
  simp [hhelp, hend, hdashed, hread]

/-- Options that state the values of a command are read to the command. -/
theorem read_listed (command : Command) {options : List (String × String)}
    (h : Lists options command.value? command.default?) :
    ∃ read, readCommand command.name = some read ∧ read (words options) = .ok command := by
  cases command with
  | renewCerts r => exact ⟨_, rfl, by rw [RenewCerts.parse_listed h]; rfl⟩
  | checkExpiration c => exact ⟨_, rfl, by rw [CheckExpiration.parse_listed h]; rfl⟩
  | resetToken t => exact ⟨_, rfl, by rw [ResetToken.parse_listed h]; rfl⟩

/-- An option that stands twice behind a command is refused. -/
theorem read_twice (command : Command) {options longer : List (String × String)} {option : String}
    (h : Lists options command.value? command.default?) (hrepeats : Repeats option options longer) :
    ∃ read, readCommand command.name = some read ∧ ∃ refused cause,
      read (words longer) = .error (.usage (.badValue option refused cause)) := by
  cases command with
  | renewCerts r =>
    obtain ⟨refused, cause, hread⟩ :=
      RenewCerts.keeps.leaf_twice Help.renewCerts h RenewCerts.value?_none hrepeats
    exact ⟨_, rfl, refused, cause, by rw [RenewCerts.parse, hread]; rfl⟩
  | checkExpiration c =>
    obtain ⟨refused, cause, hread⟩ :=
      CheckExpiration.keeps.leaf_twice Help.checkExpiration h CheckExpiration.value?_none hrepeats
    exact ⟨_, rfl, refused, cause, by rw [CheckExpiration.parse, hread]; rfl⟩
  | resetToken t =>
    obtain ⟨refused, cause, hread⟩ :=
      ResetToken.keeps.leaf_twice Help.resetToken h ResetToken.value?_none hrepeats
    exact ⟨_, rfl, refused, cause, by rw [ResetToken.parse, hread]; rfl⟩

end Command

/-! ## The program -/

namespace Arguments

def Given.value? (g : Given) : String → Option String
  | "--kubeconfig" => g.kubeconfig
  | "--context" => g.context
  | _ => none

def given (a : Arguments) : Given := ⟨a.kubeconfig, a.context⟩

theorem value?_none (name : String) : Given.value? ⟨none, none⟩ name = none := by
  unfold Given.value?
  split <;> rfl

theorem keeps : Keeps setter Given.value? where
  known {g name value} h := by
    unfold Given.value? at h
    split at h <;> simp_all [setter]
  kept {name set} h := by
    unfold setter at h
    split at h <;> cases h
    all_goals exact .text (by decide) (fun _ => rfl) (by grind [Given.value?.eq_def])

theorem Given.ext_value? {g h : Given} (hvalue : ∀ name, g.value? name = h.value? name) :
    g = h := by
  obtain ⟨_, _⟩ := g
  obtain ⟨_, _⟩ := h
  have hkubeconfig := hvalue "--kubeconfig"
  have hcontext := hvalue "--context"
  simp only [Given.value?] at hkubeconfig hcontext
  rw [hkubeconfig, hcontext]

variable {a : Arguments} {outer inner : List (String × String)}

/-- Behind the options of the program, its reading is that of the command. -/
theorem parse_outer (houter : Lists outer a.given.value? fun _ => none)
    {read : List String → Except Stop Command}
    (hread : readCommand a.command.name = some read) (rest : List String) :
    parse (words outer ++ a.command.name :: rest) =
      (read rest).map fun command => ⟨a.kubeconfig, a.context, command⟩ := by
  have hlevel : Keeps level.setter Given.value? := keeps
  obtain ⟨g, hwords, hg⟩ := hlevel.read_listed houter value?_none (a.command.name :: rest)
  have ha : g = a.given := Given.ext_value? fun name => by rw [hg, Option.or_none]
  rw [parse, hwords, a.command.readFrom_name hread, ha]
  cases read rest <;> rfl

/-- A command line that lists the options of the program, the name of a command and the options of
the command is read to the arguments that it lists, in whatever order the options of a level stand
and whatever their values are. If an option stands twice in its level, it is refused. -/
theorem parse_words (houter : Lists outer a.given.value? fun _ => none)
    (hinner : Lists inner a.command.value? a.command.default?) :
    parse (words outer ++ a.command.name :: words inner) = .ok a ∧
      (∀ option longer, Repeats option outer longer → ∃ refused cause,
        parse (words longer ++ a.command.name :: words inner) =
          .error (.usage (.badValue option refused cause))) ∧
      ∀ option longer, Repeats option inner longer → ∃ refused cause,
        parse (words outer ++ a.command.name :: words longer) =
          .error (.usage (.badValue option refused cause)) := by
  refine ⟨?_, fun option longer hrepeats => ?_, fun option longer hrepeats => ?_⟩
  · obtain ⟨read, hread, hinner⟩ := a.command.read_listed hinner
    rw [parse_outer houter hread, hinner]
    rfl
  · have hlevel : Keeps level.setter Given.value? := keeps
    obtain ⟨refused, cause, hread⟩ := hlevel.read_twice houter value?_none hrepeats
      (a.command.name :: words inner)
    exact ⟨refused, cause, by rw [parse, hread]; rfl⟩
  · obtain ⟨read, hread, refused, cause, hrefused⟩ := a.command.read_twice hinner hrepeats
    exact ⟨refused, cause, by rw [parse_outer houter hread, hrefused]; rfl⟩

/-- A value may look like an option or like the name of a command. -/
theorem parse_words_in_place :
    parse ["--context", "", "--kubeconfig", "help", "renew-certs", "--image", "--image",
        "--renew-in-place", "false"] =
      .ok ⟨some "help", some "", .renewCerts ⟨"24h", false, some "--image"⟩⟩ ∧
    ∃ refused cause,
      parse ["--context", "", "--kubeconfig", "help", "renew-certs", "--renew-in-place", "true",
        "--image", "--image", "--renew-in-place", "false"] =
      .error (.usage (.badValue "--renew-in-place" refused cause)) := by
  let a : Arguments := ⟨some "help", some "", .renewCerts ⟨"24h", false, some "--image"⟩⟩
  have houter : Lists [("--context", ""), ("--kubeconfig", "help")] a.given.value?
      fun _ => none := by
    refine ⟨by decide, fun name => ?_⟩
    simp only [lookup_cons, List.lookup_nil, Given.value?]
    split <;> simp_all [a, given]
  have hinner : Lists [("--image", "--image"), ("--renew-in-place", "false")] a.command.value?
      a.command.default? := by
    refine ⟨by decide, fun name => ?_⟩
    simp only [lookup_cons, List.lookup_nil, a, Command.value?, Command.default?,
      RenewCerts.Given.value?]
    split <;> simp_all [RenewCerts.given, RenewCerts.defaults, boolName]
  obtain ⟨hparse, -, htwice⟩ := parse_words houter hinner
  exact ⟨hparse, htwice "--renew-in-place" _ ⟨by decide, [], _, "true", rfl, rfl⟩⟩

end Arguments

end CertRenewal.CommandLine
