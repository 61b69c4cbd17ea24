import LatexFigures.Proofs.Rules.Runs

/-! Macros next to each other. The rules work on the whole text one after another, and each turns
the uses of its own macro into html and leaves everything else alone, with one exception: a logo
takes a backslash away that stands directly behind it. Where that is the one of a macro whose rule
has not had its turn, the macro is lost.
-/

namespace LatexFigures.TextRules

-----------------------------------------------------------------------------------------
-- A text in the course of its rules
-----------------------------------------------------------------------------------------

/-- A piece of a text: words, a use of a macro, or what is left of one without its backslash. -/
inductive Piece
  | words (s : Words)
  | use (u : Use)
  | bare (u : Use)

namespace Piece

/-- The piece while the rules of (pending) are still to come. -/
def shown (pending : List Macro) : Piece → Text
  | .words s => s.text
  | .use u => if u.kind ∈ pending then u.written else u.html
  | .bare u => u.bare

variable {pending : List Macro} {p : Piece}

/-- A key that is no part of the use of a macro begins nowhere. -/
theorem beginsNo_shown {key name : Text} (start : key = '\\' :: name)
    (apart : ∀ u, p = .use u → ¬ key <+: u.kind.key ∧ ¬ u.kind.key <+: key)
    : Text.BeginsNo key (p.shown pending) := by
  cases p with
  | words s =>
      rw [start]
      exact .of_not_mem (s.not_mem (by decide))
  | use u =>
      rw [shown]
      split
      · exact u.beginsNo_written start (apart u rfl)
      · exact u.beginsNo_html start (apart u rfl)
  | bare u =>
      rw [start]
      exact .of_not_mem (u.not_mem_bare (by decide))

theorem getLast?_shown : (p.shown pending).getLast? ≠ some '\x7b' := by
  cases p with
  | words s => exact fun last => s.not_mem (by decide) (List.mem_of_getLast? last)
  | use u =>
      rw [shown]
      split
      · exact u.getLast?_written.1
      · have brace : '\x7b' ∉ u.html :=
          u.not_mem_html (Macro.mem_hidden (by decide)) (by decide) (by decide)
        exact fun last => brace (List.mem_of_getLast? last)
  | bare u => exact u.getLast?_written.2

/-- The rule of a macro takes every piece over that is no use of it. -/
theorem skips_shown {m : Macro} (other : ∀ u, p = .use u → u.kind ≠ m)
    : m.form.Skips (p.shown pending) := by
  obtain ⟨name, start, -⟩ := m.key_eq
  refine Macro.skips (beginsNo_shown start fun u same => ?_) getLast?_shown
  exact Macro.apart (other u same).symm

end Piece

/-- A use that begins with its key is a backslash and the rest. -/
theorem Use.written_eq_cons (u : Use) (noSwitch : ∀ f, u.kind ≠ .switch f)
    : u.written = '\\' :: u.bare := by
  obtain ⟨name, key, -⟩ := u.kind.key_eq
  have lead : u.kind.lead = [] := by
    cases kind : u.kind with
    | switch f => exact absurd kind (noSwitch f)
    | _ => rfl
  rw [written, bare, lead, key]
  rfl

namespace Piece

/-- Words aside, pieces begin with a backslash as long as their rule is to come, and otherwise with
another character. None begins with a brace once the fonts have had their turn.
-/
theorem words_or_begins {pending : List Macro} (noSwitch : ∀ f, .switch f ∉ pending) (p : Piece)
    : (∃ s, p = .words s)
      ∨ ∃ c more, p.shown pending = c :: more
          ∧ c ≠ '\x7b'
          ∧ (c = '\\' ↔ ∃ u, p = .use u ∧ u.kind ∈ pending) := by
  cases p with
  | words s => exact .inl ⟨s, rfl⟩
  | use u =>
      right
      by_cases member : u.kind ∈ pending
      · refine ⟨'\\', u.bare, ?_, by decide, by simp [member]⟩
        rw [shown, if_pos member, u.written_eq_cons fun f same => noSwitch f (same ▸ member)]
      · obtain ⟨c, more, same, -, noSlash, noBrace⟩ := u.exists_html_eq
        refine ⟨c, more, ?_, noBrace, by simp [member, noSlash]⟩
        rw [shown, if_neg member, same]
  | bare u =>
      right
      obtain ⟨c, more, same, letter⟩ := u.kind.exists_tail_eq
      refine ⟨c, more ++ u.arguments, by rw [shown, Use.bare, same]; rfl, ?_, ?_⟩
      · rintro rfl
        exact absurd letter (by decide)
      · constructor
        · rintro rfl
          exact absurd letter (by decide)
        · simp

theorem head?_shown_append {pending : List Macro} (noSwitch : ∀ f, .switch f ∉ pending) (p : Piece)
    {rest : Text} (behind : rest.head? ≠ some '\x7b')
    : (p.shown pending ++ rest).head? ≠ some '\x7b' := by
  rcases p.words_or_begins noSwitch with ⟨s, rfl⟩ | ⟨c, more, same, noBrace, -⟩
  · cases text : s.text with
    | nil => simpa [shown, text] using behind
    | cons c more =>
        have inside : '\x7b' ∉ c :: more := text ▸ s.not_mem (by decide)
        simp [shown, text, Ne.symm (List.ne_of_not_mem_cons inside)]
  · simp [same, noBrace]

end Piece

-----------------------------------------------------------------------------------------
-- One rule
-----------------------------------------------------------------------------------------

variable {m : Macro} {pending : List Macro}

/-- The rule of a macro other than a logo turns its uses into html and leaves all else alone. -/
theorem apply_rule (noLogo : ∀ l, m ≠ .logo l) (fresh : m ∉ pending)
    (fonts : m = .space → ∀ f, .switch f ∉ pending) (pieces : List Piece)
    : m.rule.apply (pieces.flatMap (Piece.shown (m :: pending)))
      = pieces.flatMap (Piece.shown pending) := by
  refine TextRule.apply_flatMap m.looksFor
    (fun rest => m = .space → rest.head? ≠ some '\x7b') (by simp) ?_
  intro p _ rest behind
  refine ⟨fun space => ?_, ?_⟩
  · refine p.head?_shown_append (fun f member => ?_) (behind space)
    rcases List.mem_cons.mp member with same | later
    · rw [space] at same
      cases same
    · exact fonts space f later
  · by_cases own : ∃ u, p = .use u ∧ u.kind = m
    · obtain ⟨u, rfl, rfl⟩ := own
      have reads := u.reads_written (fun l logo => noLogo l (by rw [logo]; rfl)) behind
      rw [Piece.shown, Piece.shown, if_pos (by simp), if_neg fresh,
        TextRule.apply_of_reads u.kind.looksFor reads, List.take_left, List.drop_left,
        u.inserted_groups]
    · have other : ∀ u, p = .use u → u.kind ≠ m := fun u use same => own ⟨u, use, same⟩
      have same : p.shown (m :: pending) = p.shown pending := by
        cases p with
        | use u => simp [Piece.shown, other u rfl]
        | _ => rfl
      rw [same]
      exact TextRule.apply_append m.looksFor (Piece.skips_shown other) rest

-----------------------------------------------------------------------------------------
-- Logos
-----------------------------------------------------------------------------------------

/-- The text without a backslash at its beginning. -/
def dropBackslash (s : Text) : Text := if s.head? = some '\\' then s.tail else s

theorem dropBackslash_of_head {s : Text} (other : s.head? ≠ some '\\') : dropBackslash s = s :=
  if_neg other

/-- A logo is read with a backslash that stands behind it. -/
theorem reads_logo (l : Logo) (rest : Text)
    : ∃ n, (Macro.logo l).form.Reads ((Macro.logo l).key ++ rest) n []
        ∧ ((Macro.logo l).key ++ rest).drop n = dropBackslash rest := by
  by_cases slash : rest.head? = some '\\'
  · obtain ⟨more, rfl⟩ := List.head?_eq_some_iff.mp slash
    have backslash : (FormPart.optional '\\').read? (['\\'] ++ more) = some (1, []) := rfl
    have reads := Form.Reads.append (FormPart.read?_text (Macro.logo l).key _)
      (.singleton backslash)
    rw [List.append_assoc] at reads
    refine ⟨((Macro.logo l).key ++ ['\\']).length, reads, ?_⟩
    have whole : (Macro.logo l).key ++ '\\' :: more = (Macro.logo l).key ++ ['\\'] ++ more :=
      List.append_cons ..
    rw [whole, List.drop_left, dropBackslash, if_pos slash, List.tail_cons]
  · have nothing : (FormPart.optional '\\').read? ([] ++ rest) = some (0, []) := by
      rw [List.nil_append, FormPart.read?, if_neg slash]
    have reads := Form.Reads.append (FormPart.read?_text (Macro.logo l).key _)
      (.singleton nothing)
    rw [List.append_nil] at reads
    exact ⟨_, reads, by rw [List.drop_left, dropBackslash_of_head slash]⟩

/-- A logo becomes html, and the rule goes on behind the backslash. -/
theorem apply_logo_written (l : Logo) (rest : Text)
    : (Macro.logo l).rule.apply ((Use.logo l).written ++ rest)
      = (Use.logo l).html ++ (Macro.logo l).rule.apply (dropBackslash rest) := by
  obtain ⟨n, reads, behind⟩ := reads_logo l rest
  have key : (Use.logo l).written = (Macro.logo l).key := List.append_nil _
  rw [key, TextRule.apply_of_reads (Macro.logo l).looksFor reads, behind]
  exact congrArg (· ++ _) ((Use.logo l).inserted_groups _)

/-- The pieces behind the rule of a logo: directly behind it, which (behind) tells of the first
piece, a use whose rule has not had its turn loses its backslash. Words without characters do not
count.
-/
def strip (l : Logo) (pending : List Macro) : Bool → List Piece → List Piece
  | _, [] => []
  | behind, .words s :: pieces => .words s :: strip l pending (behind && s.text.isEmpty) pieces
  | behind, .use u :: pieces =>
      if behind && decide (u.kind ∈ .logo l :: pending) then .bare u :: strip l pending false pieces
      else .use u :: strip l pending (decide (u.kind = .logo l)) pieces
  | _, .bare u :: pieces => .bare u :: strip l pending false pieces

theorem strip_use_of_taken {l : Logo} {behind : Bool} {u : Use}
    (taken : (behind && decide (u.kind ∈ .logo l :: pending)) = true) (pieces : List Piece)
    : strip l pending behind (.use u :: pieces) = .bare u :: strip l pending false pieces :=
  if_pos taken

theorem strip_use_of_kept {l : Logo} {behind : Bool} {u : Use}
    (kept : (behind && decide (u.kind ∈ .logo l :: pending)) = false) (pieces : List Piece)
    : strip l pending behind (.use u :: pieces)
      = .use u :: strip l pending (decide (u.kind = .logo l)) pieces :=
  if_neg (Bool.eq_false_iff.mp kept)

/-- A piece that is no use of a macro to come, and not empty, keeps the backslash of the next one.
-/
theorem strip_cons {l : Logo} {p : Piece} (quiet : ∀ u, p = .use u → u.kind ∉ .logo l :: pending)
    (nonempty : p.shown pending ≠ []) (behind : Bool) (pieces : List Piece)
    : strip l pending behind (p :: pieces) = p :: strip l pending false pieces := by
  cases p with
  | words s =>
      have some : s.text ≠ [] := nonempty
      have flag : (behind && s.text.isEmpty) = false := by simp [some]
      rw [strip, flag]
  | use u =>
      have other := quiet u rfl
      have foreign : u.kind ≠ .logo l := fun own => other (by simp [own])
      rw [strip_use_of_kept (by rw [decide_eq_false other, Bool.and_false]),
        decide_eq_false foreign]
  | bare u => rfl

/-- Such a piece begins with no backslash, and the rule of the logo takes it over. -/
theorem Piece.shown_quiet {l : Logo} {p : Piece} (noSwitch : ∀ f, .switch f ∉ pending)
    (quiet : ∀ u, p = .use u → u.kind ∉ .logo l :: pending)
    : p.shown (.logo l :: pending) = p.shown pending
      ∧ (p.shown pending).head? ≠ some '\\'
      ∧ (Macro.logo l).form.Skips (p.shown pending) := by
  have foreign : ∀ u, p = .use u → u.kind ≠ .logo l := fun u use own =>
    quiet u use (by simp [own])
  have later : ∀ u, p = .use u → u.kind ∉ pending := fun u use member =>
    quiet u use (List.mem_cons_of_mem _ member)
  refine ⟨?_, ?_, Piece.skips_shown foreign⟩
  · cases p with
    | use u => simp [shown, foreign u rfl]
    | _ => rfl
  · rcases p.words_or_begins noSwitch with ⟨s, rfl⟩ | ⟨c, more, same, -, slash⟩
    · exact fun first => s.not_mem (by decide) (List.mem_of_head? first)
    · have other : c ≠ '\\' := fun begins => by
        obtain ⟨u, use, member⟩ := slash.mp begins
        exact later u use member
      simp [same, other]

/-- Only words can be empty. -/
theorem Piece.eq_words_of_shown_eq_nil {p : Piece} (noSwitch : ∀ f, .switch f ∉ pending)
    (nothing : p.shown pending = [])
    : ∃ s, p = .words s ∧ s.text = [] := by
  rcases p.words_or_begins noSwitch with ⟨s, rfl⟩ | ⟨c, more, same, -⟩
  · exact ⟨s, rfl, nothing⟩
  · rw [nothing] at same
    cases same

/-- The rule of a logo takes a piece over that is not to come, also behind its own use. -/
theorem apply_logo_quiet {l : Logo} {p : Piece} (noSwitch : ∀ f, .switch f ∉ pending)
    (quiet : ∀ u, p = .use u → u.kind ∉ .logo l :: pending) (nonempty : p.shown pending ≠ [])
    (rest : Text)
    : dropBackslash (p.shown (.logo l :: pending) ++ rest) = p.shown (.logo l :: pending) ++ rest
      ∧ (Macro.logo l).rule.apply (p.shown (.logo l :: pending) ++ rest)
        = p.shown pending ++ (Macro.logo l).rule.apply rest := by
  obtain ⟨same, first, skips⟩ := Piece.shown_quiet noSwitch quiet
  rw [same]
  refine ⟨dropBackslash_of_head ?_, TextRule.apply_append (Macro.logo l).looksFor skips rest⟩
  rwa [List.head?_append_of_ne_nil _ nonempty]

/-- The rule of a logo at a use that is to come: one of its own becomes html, another one stays, and
directly behind its own either one loses its backslash.
-/
theorem apply_logo_use {l : Logo} {u : Use} (fresh : .logo l ∉ pending)
    (noSwitch : ∀ f, .switch f ∉ pending) (toCome : u.kind ∈ .logo l :: pending) (rest : Text)
    : (Macro.logo l).rule.apply (u.written ++ rest)
        = (Piece.use u).shown pending
          ++ (Macro.logo l).rule.apply (if u.kind = .logo l then dropBackslash rest else rest)
      ∧ (Macro.logo l).rule.apply (dropBackslash (u.written ++ rest))
        = u.bare ++ (Macro.logo l).rule.apply rest := by
  have looks := (Macro.logo l).looksFor
  constructor
  · by_cases own : u.kind = .logo l
    · obtain rfl : u = .logo l := by cases u <;> cases own; rfl
      have after : (Piece.use (.logo l)).shown pending = (Use.logo l).html := if_neg fresh
      rw [apply_logo_written, after, if_pos own]
    · have later : u.kind ∈ pending := (List.mem_cons.mp toCome).resolve_left own
      have after : (Piece.use u).shown pending = u.written := if_pos later
      have skips : (Macro.logo l).form.Skips ((Piece.use u).shown pending) :=
        Piece.skips_shown fun v same => by
          cases same
          exact own
      rw [after] at skips
      rw [TextRule.apply_append looks skips, after, if_neg own]
  · have slash : u.written = '\\' :: u.bare := u.written_eq_cons fun f isSwitch => by
      rw [isSwitch] at toCome
      exact noSwitch f ((List.mem_cons.mp toCome).resolve_left nofun)
    have skips : (Macro.logo l).form.Skips ((Piece.bare u).shown pending) :=
      Piece.skips_shown nofun
    rw [slash, dropBackslash, List.cons_append, List.head?_cons, if_pos rfl, List.tail_cons]
    exact TextRule.apply_append looks skips rest

/-- The rule of a logo shows its uses, and takes a backslash away that stands behind one. By
induction on the pieces, of those behind the logo and of all others at once.
-/
theorem apply_logo (l : Logo) (pending : List Macro) (fresh : .logo l ∉ pending)
    (noSwitch : ∀ f, .switch f ∉ pending) (pieces : List Piece)
    : let contents := pieces.flatMap (Piece.shown (.logo l :: pending))
      (Macro.logo l).rule.apply contents
          = (strip l pending false pieces).flatMap (Piece.shown pending)
        ∧ (Macro.logo l).rule.apply (dropBackslash contents)
          = (strip l pending true pieces).flatMap (Piece.shown pending) := by
  induction pieces with
  | nil =>
      have nothing : (Macro.logo l).rule.apply [] = [] :=
        TextRule.apply_nil (Macro.logo l).looksFor
      exact ⟨nothing, nothing⟩
  | cons p pieces ih =>
      obtain ⟨plain, taken⟩ := ih
      simp only [List.flatMap_cons]
      by_cases quiet : ∀ u, p = .use u → u.kind ∉ .logo l :: pending
      · by_cases nonempty : p.shown pending = []
        · obtain ⟨s, rfl, nothing⟩ := Piece.eq_words_of_shown_eq_nil noSwitch nonempty
          simp only [strip, Piece.shown, nothing, List.nil_append, List.flatMap_cons,
            List.isEmpty_nil, Bool.and_true]
          exact ⟨plain, taken⟩
        · obtain ⟨stays, step⟩ := apply_logo_quiet noSwitch quiet nonempty
            (pieces.flatMap (Piece.shown (.logo l :: pending)))
          rw [stays, step, plain, strip_cons quiet nonempty, strip_cons quiet nonempty,
            List.flatMap_cons]
          exact ⟨rfl, rfl⟩
      · simp only [not_forall, not_not] at quiet
        obtain ⟨u, rfl, toCome⟩ := quiet
        have written : (Piece.use u).shown (.logo l :: pending) = u.written := if_pos toCome
        obtain ⟨first, behind⟩ := apply_logo_use fresh noSwitch toCome
          (pieces.flatMap (Piece.shown (.logo l :: pending)))
        have lost : (true && decide (u.kind ∈ .logo l :: pending)) = true := decide_eq_true toCome
        rw [written, first, behind, plain, strip_use_of_kept rfl, strip_use_of_taken lost]
        refine ⟨?_, rfl⟩
        by_cases own : u.kind = .logo l
        · rw [if_pos own, taken, decide_eq_true own, List.flatMap_cons]
        · rw [if_neg own, plain, decide_eq_false own, List.flatMap_cons]

-----------------------------------------------------------------------------------------
-- All rules
-----------------------------------------------------------------------------------------

/-- Rules of macros one after another turn the uses of all of them into html. -/
theorem foldl_rules (macros pending : List Macro) (noLogo : ∀ l, .logo l ∉ macros)
    (distinct : (macros ++ pending).Nodup)
    (fonts : .space ∈ macros → ∀ f, .switch f ∉ macros ++ pending) (pieces : List Piece)
    : (macros.map Macro.rule).foldl (fun contents rule => rule.apply contents)
        (pieces.flatMap (Piece.shown (macros ++ pending)))
      = pieces.flatMap (Piece.shown pending) := by
  induction macros with
  | nil => rfl
  | cons m macros ih =>
      rw [List.cons_append] at distinct
      obtain ⟨fresh, later⟩ := List.nodup_cons.mp distinct
      have here : ∀ l, m ≠ .logo l := fun l same => noLogo l (by simp [same])
      have step := apply_rule here fresh
        (fun space f member => fonts (by simp [space]) f (List.mem_cons_of_mem m member)) pieces
      rw [List.map_cons, List.foldl_cons, List.cons_append, step]
      exact ih (fun l member => noLogo l (List.mem_cons_of_mem m member)) later
        fun space f member => fonts (List.mem_cons_of_mem m space) f (List.mem_cons_of_mem m member)

/-- Pieces hold no quotation marks and no hats, and no dashes before the late macros are html. -/
theorem Piece.not_mem_shown {c : Char} {p : Piece} (mark : c ∈ "-`'^".toList)
    (early : c = '-' → ∀ m, m ∉ pending → m ∉ Macro.late)
    : c ∉ p.shown pending := by
  obtain ⟨notPlain, noDigit, -⟩ := Use.foreign_of_mark (List.mem_cons_of_mem _ mark)
  cases p with
  | words s => exact s.not_mem notPlain
  | use u =>
      rw [shown]
      split
      · exact u.not_mem_written mark
      · rename_i settled
        have hide : c ∈ u.kind.hidden := by
          rcases List.mem_cons.mp mark with rfl | other
          · exact Macro.dash_mem_hidden (early rfl _ settled)
          · exact Macro.mem_hidden (List.mem_append_left ['\x7b'] other)
        exact u.not_mem_html hide notPlain noDigit
  | bare u => exact u.not_mem_bare (List.mem_cons_of_mem _ mark)

theorem not_mem_flatMap_shown {c : Char} (mark : c ∈ "-`'^".toList)
    (early : c = '-' → ∀ m, m ∉ pending → m ∉ Macro.late) (pieces : List Piece)
    : c ∉ pieces.flatMap (Piece.shown pending) := by
  intro inside
  obtain ⟨p, -, held⟩ := List.mem_flatMap.mp inside
  exact Piece.not_mem_shown mark early held

/-- The rules for dashes and quotation marks find nothing before the late macros are html. -/
theorem foldl_dashes (pieces : List Piece)
    : let contents := pieces.flatMap (Piece.shown (.logo .tex :: .logo .latex :: Macro.late))
      dashes.foldl (fun contents rule => rule.apply contents) contents = contents := by
  intro contents
  have early (m : Macro) (settled : m ∉ .logo .tex :: .logo .latex :: Macro.late)
      : m ∉ Macro.late :=
    fun late => settled (.tail _ (.tail _ late))
  have marks : ∀ t ∈ shortenings, t.mark ∈ "-`'^".toList := by decide
  rw [foldl_dashes_eq]
  exact substitute_of_not_mem fun t member =>
    not_mem_flatMap_shown (marks t member) (fun _ => early) pieces

/-- No header stands in a text without environments. -/
theorem header_apply (header : HeaderRule) (pieces : List Piece) (contents : Text)
    : header.apply (pieces.flatMap (Piece.shown Macro.all)) contents = contents := by
  have begins : "\\begin\x7b".toList = '\\' :: "begin\x7b".toList := by decide
  have ends : "\\end\x7b".toList = '\\' :: "end\x7b".toList := by decide
  apply header.apply_of_beginsNo
  · exact .flatMap fun p _ => Piece.beginsNo_shown begins fun u _ => u.kind.apart_mark.1
  · exact .flatMap fun p _ => Piece.beginsNo_shown ends fun u _ => u.kind.apart_mark.2

/-- All rules together: pieces that are still as written become html, but for the backslashes that
the two logos take away.
-/
theorem standard_apply_pieces (pieces : List Piece)
    : standard.apply (pieces.flatMap (Piece.shown Macro.all))
      = (strip .latex Macro.late false
          (strip .tex (.logo .latex :: Macro.late) false pieces)).flatMap (Piece.shown []) := by
  have early := foldl_rules Macro.early (.logo .tex :: .logo .latex :: Macro.late)
    (fun l => by cases l <;> decide) (by decide) (fun space => absurd space (by decide)) pieces
  have tex := (apply_logo .tex (.logo .latex :: Macro.late) (by decide)
    (fun f => by cases f <;> decide) pieces).1
  have latex := (apply_logo .latex Macro.late (by decide)
    (fun f => by cases f <;> decide) (strip .tex (.logo .latex :: Macro.late) false pieces)).1
  have late (pieces : List Piece)
      : (Macro.late.map Macro.rule).foldl (fun contents rule => rule.apply contents)
          (pieces.flatMap (Piece.shown Macro.late))
        = pieces.flatMap (Piece.shown []) :=
    foldl_rules Macro.late [] (fun l => by cases l <;> decide) (by decide)
      (fun _ f => by cases f <;> decide) pieces
  have noHat (pieces : List Piece) : '^' ∉ pieces.flatMap (Piece.shown []) :=
    not_mem_flatMap_shown (by decide) (fun dash => absurd dash (by decide)) pieces
  rw [standard_apply_eq fun header contents => header_apply header pieces contents, Macro.all,
    early, foldl_dashes, tex, latex, late, euler_apply (noHat _)]

-----------------------------------------------------------------------------------------
-- Items
-----------------------------------------------------------------------------------------

/-- What running text is written of. -/
inductive Item
  | words (s : Words)
  | use (u : Use)

namespace Item

def written : Item → Text
  | .words s => s.text
  | .use u => u.written

/-- What the rules make of the item where it stands alone. -/
def html : Item → Text
  | .words s => s.text
  | .use u => u.html

/-- What the rules make of the item without its backslash. -/
def bare : Item → Text
  | .words s => s.text
  | .use u => u.bare

/-- The item is the logo. -/
def isLogo (l : Logo) : Item → Bool
  | .words _ => false
  | .use u => decide (u.kind = .logo l)

end Item

/-- The macros from whose uses a logo takes the backslash: those whose rules do not come before its
own.
-/
def Logo.taken : Logo → List Macro
  | .tex => .logo .tex :: .logo .latex :: Macro.late
  | .latex => .logo .latex :: Macro.late

theorem Use.kind_logo (l : Logo) : (Use.logo l).kind = .logo l := rfl

/-- The item takes the backslash of one that stands directly behind it. -/
def Item.takes : Item → Item → Bool
  | .use (.logo l), .use u => decide (u.kind ∈ l.taken)
  | _, _ => false

/-- What the rules make of items behind another one: the html of each, but for those whose backslash
is taken. One without its backslash takes none itself, and empty items do not count.
-/
def outcome : Option Item → List Item → Text
  | _, [] => []
  | last, item :: items =>
      if item.written = [] then outcome last items
      else if last.any (·.takes item) then item.bare ++ outcome none items
      else item.html ++ outcome (some item) items

/-- The piece that an item is before the first rule. -/
def Item.piece : Item → Piece
  | .words s => .words s
  | .use u => .use u

theorem Item.shown_piece (item : Item) : item.piece.shown Macro.all = item.written := by
  cases item with
  | words s => rfl
  | use u => exact if_pos u.kind.mem_all

theorem Item.takes_words (item : Item) (s : Words) : item.takes (.words s) = false := by
  cases item with
  | words _ => rfl
  | use u => cases u <;> rfl

theorem Item.takes_use (item : Item) (u : Use)
    : item.takes (.use u)
      = (item.isLogo .tex && decide (u.kind ∈ Logo.tex.taken)
        || item.isLogo .latex && decide (u.kind ∈ Logo.latex.taken)) := by
  cases item with
  | words _ => rfl
  | use v =>
      cases v with
      | logo l => cases l <;> simp [takes, isLogo, Use.kind_logo]
      | _ => rfl

theorem Use.written_ne_nil (u : Use) : u.written ≠ [] := by
  obtain ⟨name, key, -⟩ := u.kind.key_eq
  simp [written, key]

theorem Item.html_eq_nil {item : Item} (empty : item.written = []) : item.html = [] := by
  cases item with
  | words s => exact empty
  | use u => exact absurd empty u.written_ne_nil

/-- The rules of both logos together, by induction on the items. Where the backslash of a use is
gone already, the second logo finds no use and takes nothing.
-/
theorem flatMap_strip_eq_outcome (items : List Item) (last : Option Item)
    : (strip .latex Macro.late (last.any (·.isLogo .latex))
        (strip .tex (.logo .latex :: Macro.late) (last.any (·.isLogo .tex))
          (items.map Item.piece))).flatMap (Piece.shown [])
      = outcome last items := by
  induction items generalizing last with
  | nil => rfl
  | cons item items ih =>
      cases item with
      | words s =>
          by_cases empty : s.text = []
          · simpa [outcome, strip, Item.written, Item.piece, Piece.shown, empty] using ih last
          · have flag : s.text.isEmpty = false := by simp [empty]
            have behind := ih (some (.words s))
            simp only [Option.any_some, Item.isLogo] at behind
            simp [outcome, strip, Item.written, Item.piece, Item.html, Item.takes_words,
              Piece.shown, empty, flag, behind]
      | use u =>
          have some : (Item.use u).written ≠ [] := u.written_ne_nil
          have takes : last.any (·.takes (.use u))
              = (last.any (·.isLogo .tex) && decide (u.kind ∈ Logo.tex.taken)
                || last.any (·.isLogo .latex) && decide (u.kind ∈ Logo.latex.taken)) := by
            cases last with
            | none => rfl
            | some item => exact item.takes_use u
          rw [outcome, if_neg some, takes, List.map_cons, Item.piece]
          cases tex : last.any (·.isLogo .tex) && decide (u.kind ∈ Logo.tex.taken) with
          | true =>
              rw [strip_use_of_taken tex, strip, List.flatMap_cons]
              exact congrArg (u.bare ++ ·) (ih none)
          | false =>
              rw [strip_use_of_kept tex]
              cases latex : last.any (·.isLogo .latex) && decide (u.kind ∈ Logo.latex.taken) with
              | true =>
                  have other : u.kind ≠ .logo .tex := by
                    intro same
                    rw [same] at latex
                    exact absurd (Bool.and_eq_true_iff.mp latex).2 (by decide)
                  rw [strip_use_of_taken latex, decide_eq_false other, List.flatMap_cons]
                  exact congrArg (u.bare ++ ·) (ih none)
              | false =>
                  rw [strip_use_of_kept latex, List.flatMap_cons]
                  exact congrArg (u.html ++ ·) (ih (.some (.use u)))

/-- The rules turn items into their outcome. -/
theorem standard_apply_eq_outcome (items : List Item)
    : standard.apply (items.flatMap Item.written) = outcome none items := by
  have pieces : items.flatMap Item.written
      = (items.map Item.piece).flatMap (Piece.shown Macro.all) := by
    rw [List.flatMap_map]
    exact List.flatMap_congr fun item _ => item.shown_piece.symm
  rw [pieces, standard_apply_pieces, ← flatMap_strip_eq_outcome]
  rfl

/-- An item alone becomes html. -/
theorem standard_apply_item (item : Item) : standard.apply item.written = item.html := by
  have single := standard_apply_eq_outcome [item]
  rw [List.flatMap_singleton] at single
  rw [single]
  by_cases empty : item.written = []
  · simp [outcome, empty, Item.html_eq_nil empty]
  · simp [outcome, empty]

/-- Html without a backslash and the html of the whole differ in the first character. -/
theorem Item.bare_append_ne {i j : Item} (takes : i.takes j = true) (x y : Text)
    : j.bare ++ x ≠ j.html ++ y := by
  cases j with
  | words s => simp [takes_words] at takes
  | use u =>
      intro same
      obtain ⟨c, more, tail, letter⟩ := u.kind.exists_tail_eq
      obtain ⟨d, rest, mark, noLetter, -⟩ := u.exists_html_eq
      rw [bare, html, Use.bare, tail, mark] at same
      obtain rfl := (List.cons.inj same).1
      rw [letter] at noLetter
      cases noLetter

/-- The outcome is the html of all items exactly if no backslash is taken, by induction on the
items.
-/
theorem outcome_eq_flatMap_html_iff (items : List Item) (last : Option Item)
    : outcome last items = items.flatMap Item.html
      ↔ (last.toList ++ items.filter (·.written ≠ [])).IsChain fun i j => ¬ i.takes j := by
  induction items generalizing last with
  | nil => cases last <;> simp [outcome]
  | cons item items ih =>
      rw [List.flatMap_cons]
      by_cases empty : item.written = []
      · rw [outcome, if_pos empty, Item.html_eq_nil empty, List.nil_append, ih last,
          List.filter_cons_of_neg (by simp [empty])]
      · rw [outcome, if_neg empty, List.filter_cons_of_pos (by simp [empty])]
        cases takes : last.any (·.takes item) with
        | true =>
            obtain ⟨i, rfl, taken⟩ := (Option.any_eq_true _ _).mp takes
            have differs : item.bare ++ outcome none items ≠ item.html ++ items.flatMap Item.html :=
              Item.bare_append_ne taken _ _
            simp [differs, taken]
        | false =>
            have behind := ih (some item)
            cases last with
            | none => simpa using behind
            | some i =>
                have kept : ¬ i.takes item = true := by simpa using takes
                simpa [kept] using behind

/-- Each item alone becomes html, and several become their outcome: the macros are independent of
each other exactly if, empty items aside, no logo stands directly in front of a macro whose
backslash it takes.
-/
theorem standard_apply_items (items : List Item)
    : (∀ item : Item, standard.apply item.written = item.html)
      ∧ standard.apply (items.flatMap Item.written) = outcome none items
      ∧ (standard.apply (items.flatMap Item.written)
            = items.flatMap (fun item => standard.apply item.written)
          ↔ (items.filter (·.written ≠ [])).IsChain fun i j => ¬ i.takes j) := by
  have together := standard_apply_eq_outcome items
  refine ⟨standard_apply_item, together, ?_⟩
  rw [together, List.flatMap_congr fun item _ => standard_apply_item item]
  exact outcome_eq_flatMap_html_iff items none

/-- The first of two logos takes the backslash of the second one, which is lost. -/
theorem standard_apply_adjacent_logos
    : ∃ items : List Item,
        items.flatMap Item.written = "\\TeX\\LaTeX".toList
        ∧ standard.apply (items.flatMap Item.written) = "$\\TeX$LaTeX".toList
        ∧ items.flatMap (fun item => standard.apply item.written)
          = "$\\TeX$$\\LaTeX$".toList := by
  refine ⟨[.use (.logo .tex), .use (.logo .latex)], by decide +kernel, ?_, ?_⟩
  · rw [standard_apply_eq_outcome]
    decide +kernel
  · rw [List.flatMap_congr fun item _ => standard_apply_item item]
    decide +kernel

end LatexFigures.TextRules
