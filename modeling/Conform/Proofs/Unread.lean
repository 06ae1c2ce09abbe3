import Conform.Proofs.Retyping

namespace Conform

mutual

/-- Two schemas that have the same under all that is read of them. Neither the order in which the
keywords of a node stand matters, nor what stands under those that its kinds do not read. -/
inductive ReadAlike : Value → Value → Prop where
  | same (s : Value) : ReadAlike s s
  | node {entries entries' : List (String × Value)}
      (type : entries'.lookup "type" = entries.lookup "type")
      (rest : ∀ kind ∈ Node.compiledAs entries, ∀ keyword ∈ kind.reads (entries.lookup "enum"),
        keyword ≠ "properties" → keyword ≠ "items" →
          entries'.lookup keyword = entries.lookup keyword)
      (properties : .object ∈ Node.compiledAs entries →
        PropertiesReadAlike (entries.lookup "properties") (entries'.lookup "properties"))
      (items : .array ∈ Node.compiledAs entries →
        ItemsReadAlike (entries.lookup "items") (entries'.lookup "items")) :
      ReadAlike (.object entries) (.object entries')

inductive PropertiesReadAlike : Option Value → Option Value → Prop where
  | same (given : Option Value) : PropertiesReadAlike given given
  | each {properties properties' : List (String × Value)}
      (keys : Entries.keys properties = Entries.keys properties')
      (below : List.Forall₂ (fun p p' => ReadAlike p.2 p'.2) properties properties') :
      PropertiesReadAlike (some (.object properties)) (some (.object properties'))

inductive ItemsReadAlike : Option Value → Option Value → Prop where
  | same (given : Option Value) : ItemsReadAlike given given
  | single {item item' : List (String × Value)} (below : ReadAlike (.object item) (.object item')) :
      ItemsReadAlike (some (.object item)) (some (.object item'))
  | positions {schemas schemas' : List Value}
      (below : List.Forall₂ ReadAlike schemas schemas') :
      ItemsReadAlike (some (.list schemas)) (some (.list schemas'))

end

/-- The keywords that are read of a node. -/
def Node.reads (entries : List (String × Value)) : List String :=
  "type" :: (compiledAs entries).flatMap (Kind.reads (entries.lookup "enum"))

namespace ReadAlike

variable {entries entries' : List (String × Value)} {keyword : String}

theorem of_reads (same : ∀ keyword ∈ Node.reads entries,
    entries'.lookup keyword = entries.lookup keyword) :
    ReadAlike (.object entries) (.object entries') := by
  obtain ⟨type, read⟩ := List.forall_mem_cons.1 same
  replace read : ∀ kind ∈ Node.compiledAs entries,
      ∀ keyword ∈ kind.reads (entries.lookup "enum"),
        entries'.lookup keyword = entries.lookup keyword := fun kind named keyword hk =>
    read keyword (List.mem_flatMap.2 ⟨kind, named, hk⟩)
  refine .node type (fun kind named keyword hk _ _ => read kind named keyword hk) ?_ ?_
  · intro named
    have keyword : "properties" ∈ Kind.object.keywords := by decide
    rw [read .object named "properties" keyword]
    exact .same _
  · intro named
    have keyword : "items" ∈ Kind.array.keywords := by decide
    rw [read .array named "items" keyword]
    exact .same _

theorem of_perm (order : entries.Perm entries') (distinct : (Entries.keys entries).Nodup) :
    ReadAlike (.object entries) (.object entries') :=
  of_reads fun keyword _ => Entries.lookup_perm order distinct keyword

end ReadAlike

/-- The same error, laid to a node that reads like the one that it was laid to. What is read alike
may still be too long to be written on one side. -/
inductive Relaid : Error → Error → Prop where
  | same (e : Error) : Relaid e e
  | enumLengthMismatch {n n' : Value} (alike : ReadAlike n n') :
      Relaid (.enumLengthMismatch n) (.enumLengthMismatch n')
  | unsupportedSchema {n n' : Value} (alike : ReadAlike n n') (reason : Option Reason) :
      Relaid (.unsupportedSchema n reason) (.unsupportedSchema n' reason)
  | lengthened {n n' : Value} (alike : ReadAlike n n') (overlong : ¬n'.Writable)
      (reason : Option Reason) : Relaid (.unsupportedSchema n reason) (.fault .numberTooLong)
  | shortened {n n' : Value} (alike : ReadAlike n n') (overlong : ¬n.Writable)
      (reason : Option Reason) : Relaid (.fault .numberTooLong) (.unsupportedSchema n' reason)

theorem Relaid.code {e e' : Error} (h : Relaid e e') (told : e ≠ .fault .numberTooLong)
    (told' : e' ≠ .fault .numberTooLong) : e'.code? = e.code? := by
  cases h with
  | lengthened => exact absurd rfl told'
  | shortened => exact absurd rfl told
  | _ => rfl

theorem relaid_unsupportedSchema {n n' : Value} (alike : ReadAlike n n') (reason : Option Reason) :
    Relaid (.raised (.unsupportedSchema n reason)) (.raised (.unsupportedSchema n' reason)) := by
  obtain ⟨short, long⟩ := Error.raised_unsupportedSchema n reason
  obtain ⟨short', long'⟩ := Error.raised_unsupportedSchema n' reason
  by_cases writable : n.Writable <;> by_cases writable' : n'.Writable
  · rw [short writable, short' writable']
    exact .unsupportedSchema alike reason
  · rw [short writable, long' writable']
    exact .lengthened alike writable' reason
  · rw [long writable, short' writable']
    exact .shortened alike writable reason
  · rw [long writable, long' writable']
    exact .same _

theorem refuses_relaid {n n' : Value} (alike : ReadAlike n n') : Refuses Relaid n n' where
  unsupported := relaid_unsupportedSchema alike
  mismatched members labels := by
    rcases raised_enumLengthMismatch members labels with ⟨eq, eq'⟩ | ⟨eq, eq'⟩ <;> rw [eq, eq']
    · exact .enumLengthMismatch alike
    · exact .same _
  other e _ := .same e

theorem Kind.parts_unread {members : Option Value} {kind : Kind} :
    kind.enumerable = true →
      "properties" ∉ kind.reads members ∧ "items" ∉ kind.reads members := by
  unfold reads
  cases members.isSome <;> cases kind <;> decide

section

variable {r : Registry} {entries entries' : List (String × Value)}

theorem follows_enumerable (alike : ReadAlike (.object entries) (.object entries')) {kind : Kind}
    (enumerable : kind.enumerable = true)
    (rest : ∀ keyword ∈ kind.reads (entries.lookup "enum"),
      keyword ≠ "properties" → keyword ≠ "items" →
        entries'.lookup keyword = entries.lookup keyword) :
    Follows Relaid ((Node.ofEntries r entries).asKind r kind).outcome
      ((Node.ofEntries r entries').asKind r kind).outcome := by
  have unread : "properties" ∉ kind.reads (entries.lookup "enum") ∧
      "items" ∉ kind.reads (entries.lookup "enum") := Kind.parts_unread enumerable
  have same : ∀ keyword ∈ kind.reads (entries.lookup "enum"),
      entries'.lookup keyword = entries.lookup keyword := by
    intro keyword read
    apply rest keyword read
    · rintro rfl
      exact unread.1 read
    · rintro rfl
      exact unread.2 read
  have refuses : Refuses Relaid (Node.ofEntries r entries).value (Node.ofEntries r entries').value :=
    refuses_relaid alike
  exact Node.follows_enumerable refuses enumerable same

section

variable (parts : ∀ s, Part entries s → ∀ s', ReadAlike s s' →
  Follows Relaid (compile r s).outcome (compile r s').outcome)

include parts

end

end

end Conform
