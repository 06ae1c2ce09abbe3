import Conform.Comparison
import Conform.Descriptor.Name
import Conform.Proofs.LooseEquality

namespace Conform

/-- The title comes with what is hashed and with what is only compared. -/
inductive Identity where
  | value (v : Value)
  | tuple (items : List Identity)
  | node (title : String) (params : List Identity) (callee : Option Callee)

namespace Identity

@[elab_as_elim, induction_eliminator]
theorem induct {P : Identity → Prop} (value : ∀ v, P (.value v))
    (tuple : ∀ items, (∀ x ∈ items, P x) → P (.tuple items))
    (node : ∀ title params callee, (∀ x ∈ params, P x) → P (.node title params callee))
    (x : Identity) : P x :=
  Identity.rec (motive_1 := P) (motive_2 := fun items => ∀ x ∈ items, P x) value tuple node
    (fun _ h => nomatch h) (fun _ _ first rest => List.forall_mem_cons.2 ⟨first, rest⟩) x

def equalCallee : Option Callee → Option Callee → Bool
  | none, none => true
  | some f, some g => f.equal g
  | _, _ => false

@[simp] theorem equalCallee_none : equalCallee none none = true := rfl

@[simp] theorem equalCallee_some (f g : Callee) : equalCallee (some f) (some g) = f.equal g := rfl

mutual

@[simp] def equal : Identity → Identity → Bool
  | .value v, .value w => v.looseEq w
  | .tuple xs, .tuple ys => equalAll xs ys
  | .node s xs f, .node t ys g => s == t && equalAll xs ys && equalCallee f g
  | _, _ => false

@[simp] def equalAll : List Identity → List Identity → Bool
  | [], [] => true
  | x :: xs, y :: ys => equal x y && equalAll xs ys
  | _, _ => false

end

mutual

@[simp] def hashable : Identity → Except Fault Unit
  | .value v => v.hashable
  | .tuple items => hashableAll items
  | .node _ params _ => hashableAll params

@[simp] def hashableAll : List Identity → Except Fault Unit
  | [] => .ok ()
  | x :: xs => do
    hashable x
    hashableAll xs

end

end Identity

def Relation.title : Relation → String
  | .less => "LessThan"
  | .atMost => "LessThanOrEqual"
  | .greater => "GreaterThan"
  | .atLeast => "GreaterThanOrEqual"

def Predicate.identity : Predicate → Identity
  | .minLength v => .node "MinLength" [.value v] none
  | .maxLength v => .node "MaxLength" [.value v] none
  | .pattern p => .node "PatternMatch" [.value (.text p.source)] none
  | .format name callee => .node "FormatPredicate" [.value name] (some callee)
  | .bound relation v => .node relation.title [.value v] none
  | .whole => .node "IsWholeNumber" [] none
  | .distinct => .node "UniqueItems" [] none
  | .both p q => .node "AndPredicate" [p.identity, q.identity] none

namespace Descriptor

mutual

/-- A member goes by the word for its form as well, a field by its key. -/
def identity : Descriptor → Identity
  | .any => .node "AnyType" [] none
  | .primitive kind => .node "PrimitiveType" [.value (.text kind.name)] none
  | .enumeration members => .node "EnumType" (members.map fun m =>
      .tuple [.value (.text m.1.form.name), .value m.1, .value m.2]) none
  | .refined base p => .node "RefinedType" [base.identity, p.identity] none
  | .maybe t => .node "MaybeType" [t.identity] none
  | .struct fields name => .node "StructType" [.tuple (identityFields fields), .value name] none
  | .list t => .node "ListType" [t.identity] none
  | .tuple ts => .node "TupleType" (identityAll ts) none
  | .union ts => .node "UnionType" (identityAll ts) none

def identityAll : List Descriptor → List Identity
  | [] => []
  | t :: ts => t.identity :: identityAll ts

def identityFields : List (String × Descriptor) → List Identity
  | [] => []
  | (key, t) :: fields => .tuple [.value (.text key), t.identity] :: identityFields fields

end

end Descriptor

theorem Predicate.equal_identity (p q : Predicate) : p.identity.equal q.identity = p.equal q := by
  induction p generalizing q with
  | minLength v =>
    cases q with
    | minLength w => simp [identity, equal]
    | bound r w => cases r <;> rfl
    | _ => rfl
  | maxLength v =>
    cases q with
    | maxLength w => simp [identity, equal]
    | bound r w => cases r <;> rfl
    | _ => rfl
  | pattern p =>
    cases q with
    | pattern q => simp [identity, equal, Value.looseEq]
    | bound r w => cases r <;> rfl
    | _ => rfl
  | format v f =>
    cases q with
    | format w g => simp [identity, equal]
    | bound r w => cases r <;> rfl
    | _ => rfl
  | bound r v =>
    cases q with
    | bound s w =>
      have titles : (r.title == s.title) = (r == s) := by cases r <;> cases s <;> rfl
      simp [identity, equal, titles]
    | _ => cases r <;> rfl
  | whole =>
    cases q with
    | bound r w => cases r <;> rfl
    | _ => rfl
  | distinct =>
    cases q with
    | bound r w => cases r <;> rfl
    | _ => rfl
  | both p p' left right =>
    cases q with
    | both q q' => simp [identity, equal, left, right]
    | bound r w => cases r <;> rfl
    | _ => rfl

namespace Descriptor

theorem equalMembers_identity (ms ns : List (Value × Value)) :
    Identity.equalAll
      (ms.map fun m => .tuple [.value (.text m.1.form.name), .value m.1, .value m.2])
      (ns.map fun n => .tuple [.value (.text n.1.form.name), .value n.1, .value n.2]) =
    equalMembers ms ns := by
  induction ms generalizing ns with
  | nil => cases ns <;> rfl
  | cons m ms ih =>
    cases ns with
    | nil => rfl
    | cons n ns =>
      have forms : (m.1.form.name == n.1.form.name) = (m.1.form == n.1.form) := by
        cases m.1.form <;> cases n.1.form <;> rfl
      simp [ih, equalMembers, Value.looseEq, forms, Bool.and_assoc]

theorem equal_identity (t u : Descriptor) : t.identity.equal u.identity = t.equal u := by
  have all : ∀ {ts : List Descriptor}, (∀ t ∈ ts, ∀ u, t.identity.equal u.identity = t.equal u) →
      ∀ us, Identity.equalAll (identityAll ts) (identityAll us) = equalAll ts us := by
    intro ts
    induction ts with
    | nil => intro _ us; cases us <;> rfl
    | cons t ts ih =>
      intro parts us
      cases us with
      | nil => rfl
      | cons u us =>
        rw [List.forall_mem_cons] at parts
        simp [identityAll, equalAll, parts.1, ih parts.2]
  have fields : ∀ {fs : List (String × Descriptor)},
      (∀ f ∈ fs, ∀ u, f.2.identity.equal u.identity = f.2.equal u) →
      ∀ gs, Identity.equalAll (identityFields fs) (identityFields gs) = equalFields fs gs := by
    intro fs
    induction fs with
    | nil => intro _ gs; cases gs <;> rfl
    | cons f fs ih =>
      intro parts gs
      cases gs with
      | nil => rfl
      | cons g gs =>
        rw [List.forall_mem_cons] at parts
        simp [identityFields, equalFields, parts.1, ih parts.2, Value.looseEq]
  induction t generalizing u with
  | any => cases u <;> rfl
  | primitive k =>
    cases u with
    | primitive l =>
      have names : (k.name == l.name) = (k == l) := by cases k <;> cases l <;> rfl
      simp [identity, equal, Value.looseEq, names]
    | _ => rfl
  | enumeration ms =>
    cases u with
    | enumeration ns => simp [identity, equal, equalMembers_identity]
    | _ => rfl
  | refined b p ih =>
    cases u with
    | refined c q => simp [identity, equal, ih, Predicate.equal_identity]
    | _ => rfl
  | maybe t ih =>
    cases u with
    | maybe u => simp [identity, equal, ih]
    | _ => rfl
  | struct fs n ih =>
    cases u with
    | struct gs m => simp [identity, equal, fields ih]
    | _ => rfl
  | list t ih =>
    cases u with
    | list u => simp [identity, equal, ih]
    | _ => rfl
  | tuple ts ih =>
    cases u with
    | tuple us => simp [identity, equal, all ih]
    | _ => rfl
  | union ts ih =>
    cases u with
    | union us => simp [identity, equal, all ih]
    | _ => rfl

end Descriptor

theorem Identity.hashableAll_singleton (x : Identity) : hashableAll [x] = x.hashable := by
  simp only [hashableAll]
  cases x.hashable <;> rfl

theorem Predicate.hashable_identity (p : Predicate) : p.identity.hashable = p.hashable := by
  induction p with
  | both p q left right =>
    rw [identity, Identity.hashable, Identity.hashableAll, Identity.hashableAll_singleton, left,
      right, hashable]
  | pattern | whole | distinct => rfl
  | _ => exact Identity.hashableAll_singleton _

namespace Descriptor

theorem hashableMembers_identity (ms : List (Value × Value)) :
    Identity.hashableAll (ms.map fun m =>
      .tuple [.value (.text m.1.form.name), .value m.1, .value m.2]) = hashableMembers ms := by
  induction ms with
  | nil => rfl
  | cons m ms ih =>
    rw [List.map_cons, Identity.hashableAll, ih, hashableMembers]
    show (Identity.hashableAll [.value m.1, .value m.2] >>= fun _ => hashableMembers ms) = _
    rw [Identity.hashableAll, Identity.hashableAll_singleton, bind_assoc]
    rfl

theorem hashable_identity (t : Descriptor) : t.identity.hashable = t.hashable := by
  have all : ∀ {ts : List Descriptor}, (∀ t ∈ ts, t.identity.hashable = t.hashable) →
      Identity.hashableAll (identityAll ts) = hashableAll ts := by
    intro ts
    induction ts with
    | nil => exact fun _ => rfl
    | cons t ts ih =>
      intro parts
      rw [List.forall_mem_cons] at parts
      rw [identityAll, Identity.hashableAll, parts.1, ih parts.2, hashableAll]
  have fields : ∀ {fs : List (String × Descriptor)},
      (∀ f ∈ fs, f.2.identity.hashable = f.2.hashable) →
      Identity.hashableAll (identityFields fs) = hashableFields fs := by
    intro fs
    induction fs with
    | nil => exact fun _ => rfl
    | cons f fs ih =>
      intro parts
      rw [List.forall_mem_cons] at parts
      rw [identityFields, Identity.hashableAll, ih parts.2, hashableFields, ← parts.1,
        ← Identity.hashableAll_singleton f.2.identity]
      rfl
  induction t with
  | any | primitive => rfl
  | enumeration ms => exact hashableMembers_identity ms
  | refined base p ih =>
    rw [identity, Identity.hashable, Identity.hashableAll, Identity.hashableAll_singleton, ih,
      Predicate.hashable_identity, hashable]
  | maybe t ih | list t ih => exact (Identity.hashableAll_singleton _).trans ih
  | struct fs name ih =>
    rw [identity, Identity.hashable, Identity.hashableAll, Identity.hashableAll_singleton]
    show (Identity.hashableAll (identityFields fs) >>= fun _ => name.hashable) = _
    rw [fields ih, hashable]
  | tuple ts ih | union ts ih => exact all ih

end Descriptor

namespace Item

def identity : Item → Identity
  | .type t => t.identity
  | .predicate p => p.identity
  | .value v => .value v

/-- No type goes by the title of a predicate. -/
theorem apart (t : Descriptor) (p : Predicate) : t.identity.equal p.identity = false ∧
    p.identity.equal t.identity = false := by
  cases p with
  | bound r v => cases r <;> cases t <;> exact ⟨rfl, rfl⟩
  | _ => cases t <;> exact ⟨rfl, rfl⟩

theorem equal_identity (x y : Item) : x.identity.equal y.identity = x.equal y := by
  cases x with
  | type t =>
    cases y with
    | type u => exact t.equal_identity u
    | predicate p => exact (apart t p).1
    | value v => cases t <;> rfl
  | predicate p =>
    cases y with
    | type t => exact (apart t p).2
    | predicate q => exact p.equal_identity q
    | value v => cases p <;> rfl
  | value v =>
    cases y with
    | type t => cases t <;> rfl
    | predicate p => cases p <;> rfl
    | value w => simp [identity, equal]

theorem hashable_identity (x : Item) : x.identity.hashable = x.hashable := by
  cases x with
  | type t => exact t.hashable_identity
  | predicate p => exact p.hashable_identity
  | value v => simp [identity, hashable]

end Item

end Conform
