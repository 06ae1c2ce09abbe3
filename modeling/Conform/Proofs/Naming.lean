import Conform.Proofs.Correspondence
import Conform.Proofs.Printing
import Conform.Proofs.Shapes

namespace Conform

namespace Descriptor

/-- A struct that goes by something other than a text. -/
def BadlyNamed : Descriptor → Prop
  | .struct _ given => given.truthy = true ∧ given.form ≠ .text
  | _ => False

/-- A struct that goes by something too long to be written. -/
def LongNamed : Descriptor → Prop
  | .struct _ given => given.truthy = true ∧ ¬given.Writable
  | _ => False

/-- A text is never too long. -/
theorem LongNamed.badlyNamed {t : Descriptor} (h : t.LongNamed) : t.BadlyNamed := by
  cases t with
  | struct fields given =>
    refine ⟨h.1, fun text => h.2 ?_⟩
    cases given with
    | text s => exact .text s
    | _ => cases text
  | _ => exact h

/-- The types whose names go into the name of a type. -/
def spelled : Descriptor → List Descriptor
  | .struct fields given => if given.truthy then [] else fields.map Prod.snd
  | t => t.parts

/-- A type displays itself and whatever is displayed by the types that it spells out. -/
inductive Displayed (d : Descriptor) : Descriptor → Prop where
  | here : Displayed d d
  | inside {t u : Descriptor} (part : u ∈ t.spelled) (displayed : Displayed d u) : Displayed d t

/-- A row of types whose names cannot be joined. -/
def Unjoinable : Descriptor → Prop
  | .tuple ts => ∃ t ∈ ts, t.BadlyNamed
  | .union ts => ∃ t ∈ ts, t.BadlyNamed
  | _ => False

/-- A type that has something too long to write: a member, a limit, or the name of a part. -/
def Overlong : Descriptor → Prop
  | .enumeration members => ∃ m ∈ members, ¬m.1.Writable
  | .refined base p => base.LongNamed ∨ ¬p.Writable
  | .maybe t => t.LongNamed
  | .struct fields given => given.truthy = false ∧ ∃ f ∈ fields, f.2.LongNamed
  | .list t => t.LongNamed
  | _ => False

/-- Nothing that the type displays keeps it from having a name. -/
def Nameable (t : Descriptor) : Prop :=
  ∀ d : Descriptor, d.Displayed t → ¬d.Unjoinable ∧ ¬d.Overlong

theorem nameable_iff {t : Descriptor} :
    t.Nameable ↔ (¬t.Unjoinable ∧ ¬t.Overlong) ∧ ∀ u ∈ t.spelled, u.Nameable := by
  constructor
  · intro h
    exact ⟨h t .here, fun u part d displayed => h d (.inside part displayed)⟩
  · intro h d displayed
    cases displayed with
    | here => exact h.1
    | inside part displayed => exact h.2 _ part d displayed

/-- What keeps a type from having a name, and how it tells. -/
inductive Unnamed (t : Descriptor) : Fault → Prop where
  | joined {d : Descriptor} (displayed : d.Displayed t) (row : d.Unjoinable) (index : Nat)
      (form : Form) : Unnamed t (.joined index form)
  | overlong {d : Descriptor} (displayed : d.Displayed t) (long : d.Overlong) :
      Unnamed t .numberTooLong

theorem Unnamed.inside {t u : Descriptor} {f : Fault} (h : u.Unnamed f) (part : u ∈ t.spelled) :
    t.Unnamed f := by
  cases h with
  | joined displayed row => exact .joined (.inside part displayed) row _ _
  | overlong displayed long => exact .overlong (.inside part displayed) long

theorem Unnamed.not_nameable {t : Descriptor} {f : Fault} (h : t.Unnamed f) : ¬t.Nameable := by
  intro nameable
  cases h with
  | joined displayed row => exact (nameable _ displayed).1 row
  | overlong displayed long => exact (nameable _ displayed).2 long

/-- A name is a text unless it is a badly named struct that goes by it, and it can be written unless
that is too long. -/
structure Goes (t : Descriptor) (v : Value) : Prop where
  text : v.form = .text ↔ ¬t.BadlyNamed
  writable : v.Writable ↔ ¬t.LongNamed

/-- A type that is no badly named struct goes by a text. -/
theorem goes_text {t : Descriptor} (plain : ¬t.BadlyNamed) (s : String) : t.Goes (.text s) :=
  ⟨iff_of_true rfl plain, iff_of_true (.text s) (mt LongNamed.badlyNamed plain)⟩

/-- Nameable types have names; other types do not, for something that they display. -/
def DulyNamed (t : Descriptor) : Prop :=
  (t.Nameable ∧ ∃ v, t.name = .ok v ∧ t.Goes v) ∨ ∃ f, t.name = .error f ∧ t.Unnamed f

theorem texts_cases (index : Nat) (vs : List Value) :
    ((∀ v ∈ vs, v.form = .text) ∧ ∃ parts, texts index vs = .ok parts) ∨
      (∃ v ∈ vs, v.form ≠ .text) ∧ ∃ i form, texts index vs = .error (.joined i form) := by
  induction vs generalizing index with
  | nil => exact .inl ⟨by simp, [], rfl⟩
  | cons v vs ih =>
    cases v with
    | text s =>
      rcases ih (index + 1) with ⟨each, parts, later⟩ | ⟨⟨w, hw, other⟩, i, form, later⟩
      · exact .inl ⟨List.forall_mem_cons.2 ⟨rfl, each⟩, s :: parts, by rw [texts, later]; rfl⟩
      · exact .inr ⟨⟨w, List.mem_cons_of_mem _ hw, other⟩, i, form, by rw [texts, later]; rfl⟩
    | _ => exact .inr ⟨⟨_, List.mem_cons_self, nofun⟩, index, _, rfl⟩

theorem names_eq_mapM (ts : List Descriptor) : names ts = ts.mapM name := by
  induction ts with
  | nil => rfl
  | cons t ts ih => rw [names, List.mapM_cons, ih]

theorem fieldNames_eq_mapM (fields : List (String × Descriptor)) :
    fieldNames fields = fields.mapM fun f =>
      f.2.name >>= fun v => v.plain >>= fun first => pure (f.1 ++ ": " ++ first) := by
  induction fields with
  | nil => rfl
  | cons f fields ih =>
    rw [fieldNames, List.mapM_cons, ← ih]
    simp only [bind_assoc, pure_bind]

/-- A type that writes something around the name of its one part. -/
theorem dulyNamed_around {t u : Descriptor} {writable : Prop} {rest : Except Fault String}
    (wrap : String → String → String) (spells : t.spelled = [u]) (joins : ¬t.Unjoinable)
    (plain : ¬t.BadlyNamed) (long : t.Overlong ↔ u.LongNamed ∨ ¬writable)
    (written : Spells writable rest)
    (eq : t.name = u.name >>= fun v => v.plain >>= fun inner => rest >>= fun more =>
      pure (.text (wrap inner more))) (h : u.DulyNamed) : t.DulyNamed := by
  have part : u ∈ t.spelled := by rw [spells]; exact List.mem_singleton_self u
  rcases h with ⟨nameable, v, named, goes⟩ | ⟨f, failed, unnamed⟩
  · rw [named] at eq
    rcases v.spells_plain with ⟨short, inner, shown⟩ | ⟨tooLong, failed⟩
    · rcases written with ⟨can, more, shown'⟩ | ⟨cannot, failed⟩
      · refine .inl ⟨?_, _, by rw [eq]; show v.plain >>= _ = _; rw [shown, shown']; rfl,
          goes_text plain _⟩
        rw [nameable_iff, spells, List.forall_mem_singleton, long]
        have short := goes.writable.1 short
        exact ⟨⟨joins, by simp [short, can]⟩, nameable⟩
      · refine .inr ⟨_, ?_, .overlong .here (long.2 (.inr cannot))⟩
        rw [eq]
        show v.plain >>= _ = _
        rw [shown, failed]
        rfl
    · have named : u.LongNamed := not_not.1 (mt goes.writable.2 tooLong)
      refine .inr ⟨_, ?_, .overlong .here (long.2 (.inl named))⟩
      rw [eq]
      show v.plain >>= _ = _
      rw [failed]
      rfl
  · exact .inr ⟨f, by rw [eq, failed]; rfl, unnamed.inside part⟩

/-- A type that joins the names of a row of types. -/
theorem dulyNamed_row {t : Descriptor} {ts : List Descriptor} (separator : String)
    (wrap : String → String) (spells : t.spelled = ts)
    (joins : t.Unjoinable ↔ ∃ u ∈ ts, u.BadlyNamed) (short : ¬t.Overlong) (plain : ¬t.BadlyNamed)
    (eq : t.name = names ts >>= fun vs =>
      joined separator vs >>= fun inner => pure (.text (wrap inner)))
    (h : ∀ u ∈ ts, u.DulyNamed) : t.DulyNamed := by
  have named : ∀ {u v}, u ∈ ts → u.name = .ok v → u.Nameable ∧ u.Goes v := by
    intro u v hu found
    rcases h u hu with ⟨nameable, w, named, goes⟩ | ⟨f, failed, _⟩
    · cases named.symm.trans found
      exact ⟨nameable, goes⟩
    · cases failed.symm.trans found
  rw [names_eq_mapM] at eq
  rcases except_mapM_cases name ts with ⟨vs, listed, each⟩ | ⟨u, hu, f, failed, stopped⟩
  · rw [listed] at eq
    change t.name = joined separator vs >>= _ at eq
    rcases texts_cases 0 vs with ⟨all, parts, joint⟩ | ⟨⟨v, hv, other⟩, i, form, stopped⟩
    · rw [joined, joint] at eq
      refine .inl ⟨?_, .text (wrap (separator.intercalate parts)), eq, goes_text plain _⟩
      rw [nameable_iff, spells, joins]
      refine ⟨⟨?_, short⟩, fun u hu => ?_⟩
      · rintro ⟨u, hu, badly⟩
        obtain ⟨v, hv, found⟩ := exists_of_mem_forall₂ each.flip hu
        exact (named hu found).2.text.1 (all v hv) badly
      · obtain ⟨v, _, found⟩ := exists_of_mem_forall₂ each.flip hu
        exact (named hu found).1
    · rw [joined, stopped] at eq
      obtain ⟨u, hu, found⟩ := exists_of_mem_forall₂ each hv
      have badly : u.BadlyNamed := not_not.1 (mt (named hu found).2.text.2 other)
      exact .inr ⟨_, eq, .joined .here (joins.2 ⟨u, hu, badly⟩) i form⟩
  · rcases h u hu with ⟨_, v, found, _⟩ | ⟨g, found, unnamed⟩
    · cases failed.symm.trans found
    · cases failed.symm.trans found
      rw [stopped] at eq
      exact .inr ⟨f, eq, unnamed.inside (spells ▸ hu)⟩

theorem dulyNamed_struct {fields : List (String × Descriptor)} {given : Value}
    (h : ∀ f ∈ fields, f.2.DulyNamed) : (struct fields given).DulyNamed := by
  cases truth : given.truthy with
  | true =>
    refine .inl ⟨?_, given, by rw [name, if_pos truth], by simp [BadlyNamed, truth],
      by simp [LongNamed, truth]⟩
    rw [nameable_iff, spelled, if_pos truth]
    exact ⟨⟨id, by simp [Overlong, truth]⟩, nofun⟩
  | false =>
    have spells : (struct fields given).spelled = fields.map Prod.snd := by
      rw [spelled, if_neg (by simp [truth])]
    have plain : ¬(struct fields given).BadlyNamed := by simp [BadlyNamed, truth]
    have eq : (struct fields given).name = fieldNames fields >>= fun parts =>
        pure (.text ("\x7b" ++ ", ".intercalate parts ++ "\x7d")) := by
      rw [name, if_neg (by simp [truth])]
    rw [fieldNames_eq_mapM] at eq
    rcases except_mapM_cases _ fields with ⟨parts, listed, each⟩ | ⟨f, hf, e, failed, stopped⟩
    · rw [listed] at eq
      refine .inl ⟨?_, _, eq, goes_text plain _⟩
      have part : ∀ f ∈ fields, f.2.Nameable ∧ ¬f.2.LongNamed := by
        intro f hf
        obtain ⟨_, _, written⟩ := exists_of_mem_forall₂ each.flip hf
        obtain ⟨v, found, written⟩ := except_bind_ok.1 written
        obtain ⟨_, shown, _⟩ := except_bind_ok.1 written
        rcases h f hf with ⟨nameable, w, named, goes⟩ | ⟨_, failed, _⟩
        · cases named.symm.trans found
          exact ⟨nameable, goes.writable.1 (v.spells_plain.ok_iff.1 ⟨_, shown⟩)⟩
        · cases failed.symm.trans found
      rw [nameable_iff, spells, List.forall_mem_map]
      refine ⟨⟨id, ?_⟩, fun f hf => (part f hf).1⟩
      rintro ⟨_, f, hf, long⟩
      exact (part f hf).2 long
    · rw [stopped] at eq
      refine .inr ⟨e, eq, ?_⟩
      rcases h f hf with ⟨_, v, named, goes⟩ | ⟨g, found, unnamed⟩
      · rw [named] at failed
        change v.plain >>= _ = _ at failed
        rcases except_bind_error.1 failed with failed | ⟨_, _, ⟨⟩⟩
        obtain ⟨tooLong, rfl⟩ := v.spells_plain.error_iff.1 failed
        have long : f.2.LongNamed := not_not.1 (mt goes.writable.2 tooLong)
        exact .overlong .here ⟨truth, f, hf, long⟩
      · rw [found] at failed
        cases failed
        exact unnamed.inside (spells ▸ List.mem_map_of_mem hf)

theorem dulyNamed_enumeration (members : List (Value × Value)) :
    (enumeration members).DulyNamed := by
  have spells : Spells (∀ m ∈ members, m.1.Writable) (members.mapM fun m => m.1.written) :=
    Spells.mapM fun m _ => m.1.spells_written
  rcases spells with ⟨writable, parts, shown⟩ | ⟨tooLong, failed⟩
  · refine .inl ⟨?_, _, by rw [name, shown]; rfl, goes_text id _⟩
    rw [nameable_iff]
    exact ⟨⟨id, by simpa [Overlong] using writable⟩, nofun⟩
  · refine .inr ⟨_, by rw [name, failed]; rfl, .overlong .here ?_⟩
    simpa [Overlong] using tooLong

/-- A type has a name just if it is nameable. -/
theorem dulyNamed (t : Descriptor) : t.DulyNamed := by
  have nothing : Spells True (pure "" : Except Fault String) := .ok ""
  have inner : ∀ u : Descriptor, u.LongNamed ↔ u.LongNamed ∨ ¬True := by simp
  induction t with
  | any => exact .inl ⟨nameable_iff.2 ⟨⟨id, id⟩, nofun⟩, _, rfl, goes_text id _⟩
  | primitive kind => exact .inl ⟨nameable_iff.2 ⟨⟨id, id⟩, nofun⟩, _, rfl, goes_text id _⟩
  | enumeration members => exact dulyNamed_enumeration members
  | refined base p ih =>
    exact dulyNamed_around (fun s more => "Refined(" ++ s ++ ", " ++ more ++ ")") rfl id id .rfl
      p.spells_text rfl ih
  | maybe t ih => exact dulyNamed_around (fun s _ => "?" ++ s) rfl id id (inner t) nothing rfl ih
  | struct fields given ih => exact dulyNamed_struct ih
  | list t ih =>
    exact dulyNamed_around (fun s _ => "[" ++ s ++ "]") rfl id id (inner t) nothing rfl ih
  | tuple ts ih =>
    exact dulyNamed_row ", " (fun inner => "(" ++ inner ++ ")") rfl .rfl id id rfl ih
  | union ts ih => exact dulyNamed_row " | " id rfl .rfl id id rfl ih

/-- Messages can show the type. -/
def Printable (t : Descriptor) : Prop :=
  t.Nameable ∧ ¬t.BadlyNamed

/-- Why a type cannot be shown: it has no name, or it goes by what is no text. -/
def Unshown (t : Descriptor) (f : Fault) : Prop :=
  t.Unnamed f ∨ t.BadlyNamed ∧ f.classOf = .type

theorem Unnamed.classOf {t : Descriptor} {f : Fault} (h : t.Unnamed f) :
    f.classOf = .type ∨ f = .numberTooLong ∧ ∃ d : Descriptor, d.Displayed t ∧ d.Overlong := by
  cases h with
  | joined => exact .inl rfl
  | overlong displayed long => exact .inr ⟨rfl, _, displayed, long⟩

theorem Unshown.classOf {t : Descriptor} {f : Fault} (h : t.Unshown f) :
    f.classOf = .type ∨ f = .numberTooLong ∧ ∃ d : Descriptor, d.Displayed t ∧ d.Overlong :=
  h.elim Unnamed.classOf fun badly => .inl badly.2

theorem name_fails_iff {t : Descriptor} : (∃ f, t.name = .error f) ↔ ¬t.Nameable := by
  rcases t.dulyNamed with ⟨nameable, v, named, _⟩ | ⟨f, failed, unnamed⟩
  · simp [named, nameable]
  · simp [failed, unnamed.not_nameable]

theorem text_cases (t : Descriptor) : (t.Printable ∧ ∃ s, t.text = .ok s) ∨
    ¬t.Printable ∧ ∃ f, t.text = .error f ∧ t.Unshown f := by
  rcases t.dulyNamed with ⟨nameable, v, named, goes⟩ | ⟨f, failed, unnamed⟩
  · cases v with
    | text s => exact .inl ⟨⟨nameable, goes.text.1 rfl⟩, s, by rw [Descriptor.text, named]; rfl⟩
    | _ =>
      have badly : t.BadlyNamed := not_not.1 (mt goes.text.2 (by rintro ⟨⟩))
      exact .inr ⟨fun printable => printable.2 badly, .nameNotText _,
        by rw [Descriptor.text, named]; rfl, .inr ⟨badly, rfl⟩⟩
  · exact .inr ⟨fun printable => unnamed.not_nameable printable.1, f,
      by rw [Descriptor.text, failed]; rfl, .inl unnamed⟩

theorem text_fails_iff {t : Descriptor} : (∃ f, t.text = .error f) ↔ ¬t.Printable := by
  rcases t.text_cases with ⟨printable, s, shown⟩ | ⟨unprintable, f, failed, _⟩
  · simp [shown, printable]
  · simp [failed, unprintable]

/-- A summary shows the name, whatever it is, as long as it can be written. -/
theorem summary_cases (t : Descriptor) :
    ((t.Nameable ∧ ¬t.LongNamed) ∧ ∃ s, t.summary = .ok s) ∨
      ¬(t.Nameable ∧ ¬t.LongNamed) ∧ ∃ f, t.summary = .error f ∧
        (t.Unnamed f ∨ t.LongNamed ∧ f = .numberTooLong) := by
  rcases t.dulyNamed with ⟨nameable, v, named, goes⟩ | ⟨f, failed, unnamed⟩
  · rcases v.spells_plain with ⟨short, s, shown⟩ | ⟨tooLong, failed⟩
    · refine .inl ⟨⟨nameable, goes.writable.1 short⟩, "<" ++ t.title ++ " " ++ s ++ ">", ?_⟩
      rw [summary, named]
      show v.plain >>= _ = _
      rw [shown]
      rfl
    · have long : t.LongNamed := not_not.1 (mt goes.writable.2 tooLong)
      refine .inr ⟨fun both => both.2 long, _, ?_, .inr ⟨long, rfl⟩⟩
      rw [summary, named]
      show v.plain >>= _ = _
      rw [failed]
      rfl
  · refine .inr ⟨fun both => unnamed.not_nameable both.1, f, ?_, .inl unnamed⟩
    rw [summary, failed]
    rfl

theorem summary_fails_iff {t : Descriptor} :
    (∃ f, t.summary = .error f) ↔ ¬(t.Nameable ∧ ¬t.LongNamed) := by
  rcases t.summary_cases with ⟨fine, s, shown⟩ | ⟨not, f, failed, _⟩
  · simp [shown, fine]
  · exact iff_of_true ⟨f, failed⟩ not

theorem detail_invalidValue (t : Descriptor) (v : Value) : Error.detail (.invalidValue v t) =
    v.written >>= fun value => t.text >>= fun type =>
      pure ("Invalid value " ++ value ++ " supplied to " ++ type) :=
  rfl

/-- A value is refused if the message can tell of it and of the type. -/
theorem refuse_cases (α : Type) (t : Descriptor) (v : Value) :
    ((t.Printable ∧ v.Writable) ∧ t.refuse v = (.error (.invalidValue v t) : Except Error α)) ∨
      ¬(t.Printable ∧ v.Writable) ∧ ∃ f, t.refuse v = (.error (.fault f) : Except Error α) ∧
        (t.Unshown f ∨ ¬v.Writable ∧ f = .numberTooLong) := by
  have told := detail_invalidValue t v
  unfold refuse
  rcases v.spells_written with ⟨writable, value, shown⟩ | ⟨overlong, failed⟩
  · rw [shown] at told
    rcases t.text_cases with ⟨printable, type, shown'⟩ | ⟨unprintable, f, failed, unshown⟩
    · rw [shown'] at told
      exact .inl ⟨⟨printable, writable⟩, congrArg Except.error (Error.raised_of_ok told)⟩
    · rw [failed] at told
      exact .inr ⟨fun both => unprintable both.1, f,
        congrArg Except.error (Error.raised_of_error told), .inl unshown⟩
  · rw [failed] at told
    exact .inr ⟨fun both => overlong both.2, .numberTooLong,
      congrArg Except.error (Error.raised_of_error told), .inr ⟨overlong, rfl⟩⟩

theorem Occurs.trans {d t u : Descriptor} (h : d.Occurs t) (inner : u.Occurs d) : u.Occurs t := by
  induction h with
  | here => exact inner
  | inside part _ ih => exact .inside part ih

theorem Displayed.occurs {d t : Descriptor} (h : d.Displayed t) : d.Occurs t := by
  induction h with
  | here => exact .here
  | @inside t u part _ ih =>
    refine .inside ?_ ih
    cases t with
    | struct fields given =>
      rw [spelled] at part
      split at part
      · cases part
      · exact part
    | _ => exact part

/-- Where no struct is badly named, only length can keep a type from being shown. -/
theorem printable_of_occurs {t : Descriptor} (named : ∀ d : Descriptor, d.Occurs t → ¬d.BadlyNamed)
    (short : ∀ d : Descriptor, d.Displayed t → ¬d.Overlong) : t.Printable := by
  refine ⟨fun d displayed => ⟨?_, short d displayed⟩, named t .here⟩
  have parts : ∀ u ∈ d.parts, ¬u.BadlyNamed := by
    intro u part
    exact named u (displayed.occurs.trans (.inside part .here))
  cases d with
  | tuple ts | union ts =>
    rintro ⟨u, hu, badly⟩
    exact parts u hu badly
  | _ => exact id

end Descriptor

open Descriptor in
/-- A type cannot be named just if it displays a row of types of which one goes by something other
than a text, or something that is too long to be written. It cannot be summed up then, nor if it
goes by something too long itself; and it cannot be shown as a text then, nor if it goes by no text
itself. -/
theorem unnamed_iff_displayed (t : Descriptor) :
    ((∃ f, t.name = .error f) ↔
      ∃ d : Descriptor, d.Displayed t ∧ (d.Unjoinable ∨ d.Overlong)) ∧
    ((∃ f, t.summary = .error f) ↔ (∃ f, t.name = .error f) ∨ t.LongNamed) ∧
    ((∃ f, t.text = .error f) ↔ (∃ f, t.name = .error f) ∨ t.BadlyNamed) ∧
    (∀ f, t.name = .error f ∨ t.summary = .error f ∨ t.text = .error f → f.classOf = .type ∨
      f = .numberTooLong ∧ (t.LongNamed ∨ ∃ d : Descriptor, d.Displayed t ∧ d.Overlong)) ∧
    ∀ v, t.name = .ok v → ¬t.BadlyNamed → ∃ s, v = .text s := by
  have excused {f : Fault} : (f.classOf = .type ∨ f = .numberTooLong ∧
      ∃ d : Descriptor, d.Displayed t ∧ d.Overlong) → f.classOf = .type ∨ f = .numberTooLong ∧
      (t.LongNamed ∨ ∃ d : Descriptor, d.Displayed t ∧ d.Overlong) :=
    Or.imp_right fun long => ⟨long.1, .inr long.2⟩
  refine ⟨?_, ?_, ?_, ?_, ?_⟩
  · rw [name_fails_iff, Nameable]
    push Not
    simp only [← or_iff_not_imp_left]
  · rw [summary_fails_iff, name_fails_iff, not_and_or, not_not]
  · rw [text_fails_iff, name_fails_iff, Printable, not_and_or, not_not]
  · rintro f (failed | failed | failed)
    · rcases t.dulyNamed with ⟨_, v, named, _⟩ | ⟨_, failed', unnamed⟩
      · cases failed.symm.trans named
      · cases failed.symm.trans failed'
        exact excused unnamed.classOf
    · rcases t.summary_cases with ⟨_, s, shown⟩ | ⟨_, g, failed', unnamed | ⟨long, rfl⟩⟩
      · cases failed.symm.trans shown
      · cases failed.symm.trans failed'
        exact excused unnamed.classOf
      · cases failed.symm.trans failed'
        exact .inr ⟨rfl, .inl long⟩
    · rcases t.text_cases with ⟨_, s, shown⟩ | ⟨_, g, failed', unshown⟩
      · cases failed.symm.trans shown
      · cases failed.symm.trans failed'
        exact excused unshown.classOf
  · intro v found plain
    rcases t.dulyNamed with ⟨_, w, named, goes⟩ | ⟨_, failed, _⟩
    · cases found.symm.trans named
      have form := goes.text.2 plain
      cases v with
      | text s => exact ⟨s, rfl⟩
      | _ => cases form
    · cases found.symm.trans failed

/-- A struct that goes by a number is no matter to a list but to a tuple, at whatever depth, until a
struct with a name of its own is put around it. -/
theorem unnamed_iff_displayed_hidden :
    let odd : Descriptor := .struct [("a", .any)] (.int 5)
    let row : Descriptor := .list (.maybe (.tuple [.any, odd]))
    let point : Descriptor := .struct [("row", row)] (.text "Point")
    odd.BadlyNamed ∧ odd.name = .ok (.int 5) ∧ odd.summary = .ok "<StructType 5>" ∧
      odd.text = .error (.nameNotText .int) ∧
      (Descriptor.list odd).text = .ok "[5]" ∧
      (∃ d : Descriptor, d.Displayed row ∧ (d.Unjoinable ∨ d.Overlong)) ∧
      row.name = .error (.joined 1 .int) ∧
      ¬(∃ d : Descriptor, d.Displayed point ∧ (d.Unjoinable ∨ d.Overlong)) ∧
      point.text = .ok "Point" := by
  intro odd row point
  have failed : row.name = .error (.joined 1 .int) := rfl
  have named : point.name = .ok (.text "Point") := rfl
  refine ⟨⟨rfl, nofun⟩, rfl, by decide +kernel, rfl, by decide +kernel,
    (unnamed_iff_displayed row).1.1 ⟨_, failed⟩, failed, fun displayed => ?_, rfl⟩
  obtain ⟨f, failed⟩ := (unnamed_iff_displayed point).1.2 displayed
  cases named.symm.trans failed

open Descriptor in
/-- A member that is too long keeps an enumeration from having a name. No row of types is at fault,
and the fault is not over a type. -/
theorem unnamed_of_long_member :
    let t : Descriptor := .enumeration [(.tooLong, .tooLong)]
    t.name = .error .numberTooLong ∧ (∀ d : Descriptor, d.Displayed t → ¬d.Unjoinable) ∧
      Fault.numberTooLong.classOf ≠ .type := by
  intro t
  have long : t.Overlong := ⟨_, List.mem_singleton_self _, Value.not_writable_tooLong⟩
  refine ⟨?_, fun d displayed => ?_, by rintro ⟨⟩⟩
  · rcases dulyNamed_enumeration [(.tooLong, .tooLong)] with ⟨nameable, _⟩ | ⟨f, failed, unnamed⟩
    · exact absurd long (nameable t .here).2
    · cases unnamed with
      | overlong => exact failed
      | joined displayed row =>
        cases displayed with
        | here => exact absurd row id
        | inside part => cases part
  · cases displayed with
    | here => exact id
    | inside part => cases part

end Conform
