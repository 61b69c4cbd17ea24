import LatexFigures.Proofs.Document.Registration

/-! A registry between its requests. Each of its three tables is an ordered map: a name keeps the
place of its first registration and has the entry of the last one. Whether a call succeeds is told
by the call alone. All that can fail in a call comes before the change it makes, so that one that
fails leaves the registry as it was.
-/

namespace LatexFigures

-----------------------------------------------------------------------------------------
-- Ordered maps
-----------------------------------------------------------------------------------------

namespace Ordered

variable {α β κ : Type} [DecidableEq κ] {key : α → κ} {given items : List α}

/-- What an ordered map holds of the entries (given), which were put into it one after another: one
for each key, in the order in which the keys first came, and of each key the last one.
-/
structure IsMapOf (key : α → κ) (given items : List α) : Prop where
  distinct : (items.map key).Nodup
  order : items.map key = (given.map key).eraseDups
  latest
    : ∀ item ∈ items,
        ∃ before after, given = before ++ item :: after ∧ key item ∉ after.map key

theorem eraseDups_concat (keys : List κ) (k : κ)
    : (keys ++ [k]).eraseDups
      = if k ∈ keys then keys.eraseDups else keys.eraseDups ++ [k] := by
  rw [List.eraseDups_append]
  split
  · rename_i old
    simp [List.removeAll, old]
  · rename_i new
    simp [List.removeAll, new, List.eraseDups_cons]

theorem eraseDups_of_nodup {keys : List κ} (distinct : keys.Nodup) : keys.eraseDups = keys := by
  induction keys using List.reverseRecOn with
  | nil => rfl
  | append_singleton keys k ih =>
      obtain ⟨earlier, -, apart⟩ := List.nodup_append.mp distinct
      have new : k ∉ keys := fun old => apart k old k (List.mem_singleton_self k) rfl
      rw [eraseDups_concat, if_neg new, ih earlier]

/-- Entries with distinct keys are all there. -/
theorem isMapOf_self (distinct : (items.map key).Nodup) : IsMapOf key items items where
  distinct
  order := (eraseDups_of_nodup distinct).symm
  latest := by
    intro item member
    obtain ⟨before, after, rfl⟩ := List.append_of_mem member
    rw [List.map_append, List.map_cons] at distinct
    exact ⟨before, after, rfl, (List.nodup_cons.mp (List.nodup_append.mp distinct).2.1).1⟩

/-- Another entry takes the place of the one with its key, or comes last. -/
theorem IsMapOf.put (h : IsMapOf key given items) (item : α)
    : IsMapOf key (given ++ [item]) (put key item items) where
  distinct := nodup_put key h.distinct item
  order := by
    have known : key item ∈ items.map key ↔ key item ∈ given.map key := by
      rw [h.order, List.mem_eraseDups]
    rw [map_put, List.map_append, List.map_singleton, eraseDups_concat, ← h.order]
    simp only [known]
  latest := by
    intro other member
    rcases (mem_put key h.distinct item other).mp member with rfl | ⟨old, differs⟩
    · exact ⟨given, [], rfl, by simp⟩
    · obtain ⟨before, after, rfl, last⟩ := h.latest other old
      refine ⟨before, after ++ [item], by simp, ?_⟩
      simpa [differs] using last

/-- The same for an entry that there may be. -/
theorem IsMapOf.putOptional (h : IsMapOf key given items) (item? : Option α)
    : IsMapOf key (given ++ item?.toList)
        (item?.elim items fun item => Ordered.put key item items) := by
  cases item? with
  | none => simpa using h
  | some item => exact h.put item

theorem map_put_comp (f : α → β) (key : β → κ) (item : α) (items : List α)
    : (put (fun a => key (f a)) item items).map f = put key (f item) (items.map f) := by
  induction items with
  | nil => rfl
  | cons first more ih =>
      simp only [put, List.map_cons]
      split <;> simp [ih]

end Ordered

-----------------------------------------------------------------------------------------
-- Calls
-----------------------------------------------------------------------------------------

namespace Registry

/-- A call that registers something. -/
inductive Call
  | environment (name : String) (literal : Bool)
  | text (name : String) (pattern : Text) (replacement : Replacement)
  | headers (name : String) (beginText endText : Text)

/-- Makes a call. -/
def call : Call → Registration Registry Unit
  | .environment name literal => addEnvironment name literal
  | .text name pattern replacement => addText name pattern replacement
  | .headers name beginText endText => addHeaders name beginText endText

namespace Call

/-- Why a name is refused, if it is: it cannot be one, or the patterns of its marks weigh too much.
-/
def nameRefusal? (isName : String → Bool) (longest : Nat) (name : String) : Option RegistryError :=
  if isName name then
    if name.length ≤ longest then none else some (.invalidPattern name)
  else some (.invalidName name)

/-- Why a call is refused, if it is. -/
def refusal? : Call → Option RegistryError
  | .environment name _ => nameRefusal? isEnvironmentName longestEnvironmentName name
  | .text name pattern _ =>
      if (Pattern.read? pattern).isSome then none else some (.invalidPattern name)
  | .headers name _ _ => nameRefusal? isHeaderName longestHeaderName name

theorem nameRefusal?_of_long {isName : String → Bool} {longest : Nat} {name : String}
    (named : isName name = true) (long : longest < name.length)
    : nameRefusal? isName longest name = some (.invalidPattern name) := by
  rw [nameRefusal?, if_pos named, if_neg (Nat.not_le.mpr long)]

/-- The environment that a call enters. -/
def kind? : Call → Option EnvironmentKind
  | .environment name literal => some (.named name literal)
  | _ => none

/-- The text rule that a call enters. -/
def textRule? : Call → Option TextRule
  | .text name pattern replacement =>
      (Pattern.read? pattern).map fun pattern => ⟨name, .pattern (.ofPattern pattern), replacement⟩
  | _ => none

/-- The header rule that a call enters. -/
def headerRule? : Call → Option HeaderRule
  | .headers name beginText endText => some ⟨name, beginText, endText⟩
  | _ => none

end Call

variable {registry next : Registry} {c : Call}

/-- A call has entered its environment or its rule, and has changed nothing else. -/
structure Enters (registry : Registry) (c : Call) (next : Registry) : Prop where
  kinds
    : next.delimiters.kinds
      = c.kind?.elim registry.delimiters.kinds fun kind =>
          Ordered.put EnvironmentKind.tag kind registry.delimiters.kinds
  text
    : next.rules.text
      = c.textRule?.elim registry.rules.text fun rule =>
          Ordered.put TextRule.name rule registry.rules.text
  headers
    : next.rules.headers
      = c.headerRule?.elim registry.rules.headers fun rule =>
          Ordered.put HeaderRule.name rule registry.rules.headers
  ignored : next.rules.ignored = registry.rules.ignored

/-- A call fails for what it asks, whatever is registered, and then changes nothing; or else it
enters that.
-/
theorem call_cases (registry : Registry) (c : Call)
    : (∃ e, c.refusal? = some e ∧ (call c).run registry = (.error e, registry))
      ∨ (c.refusal? = none
        ∧ ∃ next, (call c).run registry = (.ok (), next) ∧ registry.Enters c next) := by
  cases c with
  | environment name literal =>
      rw [call, addEnvironment, Registration.run_within, DelimiterTable.run_register,
        Call.refusal?, Call.nameRefusal?]
      simp only [EnvironmentKind.named_tag]
      by_cases named : isEnvironmentName name = true
      · by_cases short : name.length ≤ longestEnvironmentName
        · rw [if_pos named, if_pos short, dif_pos named, if_pos short]
          refine .inr ⟨rfl, _, rfl, ?_, rfl, rfl, rfl⟩
          exact Ordered.map_put_comp Delimiter.kind EnvironmentKind.tag _ _
        · rw [if_pos named, if_neg short, dif_pos named, if_neg short]
          exact .inl ⟨_, rfl, rfl⟩
      · rw [if_neg named, dif_neg named]
        exact .inl ⟨_, rfl, rfl⟩
  | text name pattern replacement =>
      rw [call, addText, addRules, Registration.run_within, TextRules.run_addText, Call.refusal?]
      cases read : Pattern.read? pattern with
      | none => exact .inl ⟨_, rfl, rfl⟩
      | some parsed =>
          exact .inr ⟨rfl, _, rfl, rfl, by simp only [Call.textRule?, read]; rfl, rfl, rfl⟩
  | headers name beginText endText =>
      rw [call, addHeaders, addRules, Registration.run_within, TextRules.run_addHeaders,
        Call.refusal?, Call.nameRefusal?]
      by_cases named : isHeaderName name = true
      · by_cases short : name.length ≤ longestHeaderName
        · rw [if_pos named, if_pos short, if_pos named, if_pos short]
          exact .inr ⟨rfl, _, rfl, rfl, rfl, rfl, rfl⟩
        · rw [if_pos named, if_neg short, if_pos named, if_neg short]
          exact .inl ⟨_, rfl, rfl⟩
      · rw [if_neg named, if_neg named]
        exact .inl ⟨_, rfl, rfl⟩

theorem call_eq_error_iff {e : RegistryError}
    : ((call c).run registry).1 = .error e ↔ c.refusal? = some e := by
  rcases registry.call_cases c with ⟨fault, refused, failed⟩ | ⟨accepted, next, made, -⟩
  · rw [refused, failed]
    simp
  · rw [accepted, made]
    simp

/-- A call that fails leaves the registry as it was. -/
theorem run_call_of_error {e : RegistryError} (failed : ((call c).run registry).1 = .error e)
    : (call c).run registry = (.error e, registry) := by
  rcases registry.call_cases c with ⟨fault, -, run⟩ | ⟨-, next, run, -⟩
  · rw [run] at failed ⊢
    exact Prod.ext failed rfl
  · rw [run] at failed
    cases failed

-----------------------------------------------------------------------------------------
-- Requests
-----------------------------------------------------------------------------------------

/-- What can be asked of a registry. -/
inductive Request
  | register (c : Call)
  | kinds
  | apply (fragment : Text)
  | isIgnored (fragment : Text)
  | parse (s : Text)
  | expand (s : Text)

/-- The call of a request, if it is one that succeeds. -/
def Request.accepted? : Request → Option Call
  | .register c => if c.refusal? = none then some c else none
  | _ => none

/-- What a request shows. -/
inductive Answer
  | registered (result : Except RegistryError Unit)
  | kinds (kinds : List EnvironmentKind)
  | applied (contents : Text)
  | ignored (isIgnored : Bool)
  | parsed (outcome : Except MalformedFigure (List Segment))
  | expanded (lines : List Text)

/-- Answers one request. The registry afterwards is the one that the request leaves behind. -/
def answer (registry : Registry) : Request → Answer × Registry
  | .register c => Prod.map .registered id ((call c).run registry)
  | .kinds => (.kinds registry.delimiters.kinds, registry)
  | .apply fragment => (.applied (registry.rules.apply fragment), registry)
  | .isIgnored fragment => (.ignored (registry.rules.isIgnored fragment), registry)
  | .parse s => (.parsed (Document.parse registry s), registry)
  | .expand s => (.expanded (Document.expand registry s), registry)

/-- Answers one request after another. -/
def answers (registry : Registry) : List Request → List Answer × Registry
  | [] => ([], registry)
  | request :: more =>
      let (first, next) := registry.answer request
      let (later, last) := next.answers more
      (first :: later, last)

theorem answers_append (registry : Registry) (requests more : List Request)
    : registry.answers (requests ++ more)
      = ((registry.answers requests).1 ++ ((registry.answers requests).2.answers more).1,
          ((registry.answers requests).2.answers more).2) := by
  induction requests generalizing registry with
  | nil => rfl
  | cons request requests ih => simp only [List.cons_append, answers, ih]

theorem length_answers (registry : Registry) (requests : List Request)
    : (registry.answers requests).1.length = requests.length := by
  induction requests generalizing registry with
  | nil => rfl
  | cons request requests ih => simp only [answers, List.length_cons, ih]

/-- A call that fails shows in its own answer alone. -/
theorem answers_of_refused {e : RegistryError} (failed : ((call c).run registry).1 = .error e)
    (later : List Request)
    : registry.answers (.register c :: later)
      = (.registered (.error e) :: (registry.answers later).1, (registry.answers later).2) := by
  rw [answers, answer, run_call_of_error failed]
  rfl

-----------------------------------------------------------------------------------------
-- Tables
-----------------------------------------------------------------------------------------

/-- The tables are those of the registry that every document starts with and of some calls. -/
structure Collected (calls : List Call) (registry : Registry) : Prop where
  kinds
    : Ordered.IsMapOf EnvironmentKind.tag
        (DelimiterTable.defaultNames.map (EnvironmentKind.named · false)
          ++ calls.filterMap Call.kind?)
        registry.delimiters.kinds
  text
    : Ordered.IsMapOf TextRule.name
        (TextRules.standardText ++ calls.filterMap Call.textRule?) registry.rules.text
  headers
    : Ordered.IsMapOf HeaderRule.name
        (TextRules.standardHeaders ++ calls.filterMap Call.headerRule?) registry.rules.headers
  ignored : registry.rules.ignored = TextRules.standard.ignored

variable {calls : List Call}

theorem collected_nil : Collected [] {} where
  kinds := by
    have standard : ({} : Registry).delimiters.kinds
        = DelimiterTable.defaultNames.map (EnvironmentKind.named · false) := by
      decide +kernel
    rw [List.filterMap_nil, List.append_nil, standard]
    exact Ordered.isMapOf_self (by decide +kernel)
  text := by
    rw [List.filterMap_nil, List.append_nil]
    exact Ordered.isMapOf_self (by decide +kernel)
  headers := by
    rw [List.filterMap_nil, List.append_nil]
    exact Ordered.isMapOf_self (by decide +kernel)
  ignored := rfl

theorem Collected.enters (h : Collected calls registry) (entered : registry.Enters c next)
    : Collected (calls ++ [c]) next := by
  have single {α : Type} (f : Call → Option α)
      : (calls ++ [c]).filterMap f = calls.filterMap f ++ (f c).toList := by
    cases entry : f c <;> simp [entry]
  refine ⟨?_, ?_, ?_, entered.ignored.trans h.ignored⟩
  · rw [single, ← List.append_assoc, entered.kinds]
    exact h.kinds.putOptional c.kind?
  · rw [single, ← List.append_assoc, entered.text]
    exact h.text.putOptional c.textRule?
  · rw [single, ← List.append_assoc, entered.headers]
    exact h.headers.putOptional c.headerRule?

/-- One request adds its call, if that succeeds. -/
theorem Collected.answer (h : Collected calls registry) (request : Request)
    : Collected (calls ++ request.accepted?.toList) (registry.answer request).2 := by
  cases request with
  | register c =>
      simp only [Registry.answer, Request.accepted?]
      rcases registry.call_cases c with ⟨e, refused, failed⟩ | ⟨accepted, next, made, entered⟩
      · simpa [refused, failed] using h
      · simpa [accepted, made] using h.enters entered
  | kinds | apply | isIgnored | parse | expand => simpa [Registry.answer, Request.accepted?] using h

/-- Requests add the calls among them that succeed, by induction on the requests. -/
theorem Collected.answers (h : Collected calls registry) (requests : List Request)
    : Collected (calls ++ requests.filterMap Request.accepted?) (registry.answers requests).2 := by
  induction requests generalizing calls registry with
  | nil => simpa [Registry.answers] using h
  | cons request requests ih =>
      have later := ih (h.answer request)
      cases accepted : request.accepted? <;> simpa [accepted, Registry.answers] using later

/-- Kinds in the table are those that names stand for, so that no call makes a built-in name mean
anything else.
-/
theorem Collected.builtin (h : Collected calls registry) {kind : EnvironmentKind}
    (member : kind ∈ registry.delimiters.kinds)
    (builtin : kind.tag ∈ "math" :: DelimiterTable.defaultNames)
    : kind = .named kind.tag false := by
  have given : ∃ name literal, kind = .named name literal := by
    obtain ⟨before, after, split, -⟩ := h.kinds.latest kind member
    have entry : kind ∈ before ++ kind :: after := by simp
    rw [← split, List.mem_append, List.mem_map, List.mem_filterMap] at entry
    rcases entry with ⟨name, -, rfl⟩ | ⟨c, -, entered⟩
    · exact ⟨name, false, rfl⟩
    · cases c with
      | environment name literal => exact ⟨name, literal, (Option.some.inj entered).symm⟩
      | text | headers => cases entered
  obtain ⟨name, literal, rfl⟩ := given
  rw [EnvironmentKind.named_tag] at builtin ⊢
  simp only [DelimiterTable.defaultNames, List.mem_cons, List.not_mem_nil, or_false] at builtin
  rcases builtin with rfl | rfl | rfl | rfl | rfl | rfl | rfl <;> rfl

/-- After any requests to the registry that every document starts with, its tables are those of the
calls that succeeded. Whether one more call succeeds, the registry does not matter for; if it fails,
then it has left the registry as it was, and every later request is answered as without it.
-/
theorem answers_collected (requests : List Request)
    : let registry := (({} : Registry).answers requests).2
      Collected (requests.filterMap Request.accepted?) registry
      ∧ (∀ kind ∈ registry.delimiters.kinds,
          kind.tag ∈ "math" :: DelimiterTable.defaultNames → kind = .named kind.tag false)
      ∧ ∀ c e,
          (((call c).run registry).1 = .error e ↔ c.refusal? = some e)
          ∧ (((call c).run registry).1 = .error e →
              ((call c).run registry).2 = registry
              ∧ ∀ later, ∃ earlierAnswers laterAnswers,
                  earlierAnswers.length = requests.length
                  ∧ (({} : Registry).answers (requests ++ later)).1
                    = earlierAnswers ++ laterAnswers
                  ∧ (({} : Registry).answers (requests ++ .register c :: later)).1
                    = earlierAnswers ++ .registered (.error e) :: laterAnswers) := by
  intro registry
  have collected : Collected (requests.filterMap Request.accepted?) registry := by
    simpa using collected_nil.answers requests
  refine ⟨collected, fun kind => collected.builtin, fun c e => ⟨call_eq_error_iff, ?_⟩⟩
  intro failed
  refine ⟨congrArg Prod.snd (run_call_of_error failed), fun later => ?_⟩
  refine ⟨(({} : Registry).answers requests).1, (registry.answers later).1, ?_, ?_, ?_⟩
  · exact length_answers {} requests
  · rw [answers_append]
  · rw [answers_append, answers_of_refused failed]

/-- Letters make a name, but not more of them than a name may have. -/
theorem Call.refusals_of_letters {n : Nat} (long : longestHeaderName < n)
    : let letters := String.ofList (List.replicate n 'a')
      (environment letters false).refusal? = some (.invalidPattern letters)
      ∧ (headers letters [] []).refusal? = some (.invalidPattern letters) := by
  intro letters
  have size : letters.length = n := by simp [letters]
  have some : n ≠ 0 := (Nat.zero_lt_of_lt long).ne'
  have shorter : longestEnvironmentName < longestHeaderName := by decide
  constructor
  · refine nameRefusal?_of_long ?_ (size ▸ shorter.trans long)
    have plain : isNameChar 'a' = true := by decide
    simp [isEnvironmentName, letters, some, plain]
  · refine nameRefusal?_of_long ?_ (size ▸ long)
    simp [isHeaderName, letters, some]

/-- A name that is registered twice has one place, and a built-in name keeps its kind. A name with a
space is refused, and so is one that is too long, and what is registered is shown as without these
calls.
-/
theorem answers_collected_of_spaced_name
    : let requests : List Request :=
        [.register (.environment "box" false), .register (.environment "print" true),
          .register (.environment "box" true)]
      let registry := (({} : Registry).answers requests).2
      let spaced : Call := .environment "a b" false
      let letters := String.ofList (List.replicate (longestHeaderName + 1) 'a')
      registry.delimiters.kinds
        = [.figure, .verbatim, .print, .enumerate, .nicebox, .macros, .custom "box" true]
      ∧ EnvironmentKind.print = .named "print" false
      ∧ (call spaced).run registry = (.error (.invalidName "a b"), registry)
      ∧ (∃ earlierAnswers laterAnswers,
          earlierAnswers.length = 3
          ∧ (({} : Registry).answers (requests ++ [.kinds])).1 = earlierAnswers ++ laterAnswers
          ∧ (({} : Registry).answers (requests ++ [.register spaced, .kinds])).1
            = earlierAnswers ++ .registered (.error (.invalidName "a b")) :: laterAnswers)
      ∧ (call (.environment letters false)).run registry
        = (.error (.invalidPattern letters), registry)
      ∧ (call (.headers letters [] [])).run registry
        = (.error (.invalidPattern letters), registry) := by
  intro requests registry spaced letters
  have kinds : registry.delimiters.kinds
      = [.figure, .verbatim, .print, .enumerate, .nicebox, .macros, .custom "box" true] := by
    decide +kernel
  obtain ⟨-, builtin, calls⟩ := answers_collected requests
  have refuse {c : Call} {e : RegistryError} (refused : c.refusal? = some e)
      : (call c).run registry = (.error e, registry) :=
    run_call_of_error (call_eq_error_iff.mpr refused)
  have failed : spaced.refusal? = some (.invalidName "a b") := by decide +kernel
  have ⟨longName, longHeader⟩ := Call.refusals_of_letters (Nat.lt_succ_self longestHeaderName)
  refine ⟨kinds, builtin .print ?_ (by decide +kernel), refuse failed,
    ((calls _ _).2 ((calls _ _).1.mpr failed)).2 [.kinds], refuse longName, refuse longHeader⟩
  rw [kinds]
  decide

end Registry

end LatexFigures
