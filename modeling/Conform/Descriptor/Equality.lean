import Conform.Descriptor.Basic

namespace Conform.Descriptor

/-- Members must agree in form, so that one, its fraction and `true` are kept apart. -/
def equalMembers : List (Value × Value) → List (Value × Value) → Bool
  | [], [] => true
  | (v, l) :: ms, (w, m) :: ns =>
    v.form == w.form && v.looseEq w && l.looseEq m && equalMembers ms ns
  | _, _ => false

mutual

def equal : Descriptor → Descriptor → Bool
  | .any, .any => true
  | .primitive k, .primitive l => k == l
  | .enumeration ms, .enumeration ns => equalMembers ms ns
  | .refined b p, .refined c q => b.equal c && p.equal q
  | .maybe t, .maybe u => t.equal u
  | .struct fs n, .struct gs m => equalFields fs gs && n.looseEq m
  | .list t, .list u => t.equal u
  | .tuple ts, .tuple us => equalAll ts us
  | .union ts, .union us => equalAll ts us
  | _, _ => false

def equalAll : List Descriptor → List Descriptor → Bool
  | [], [] => true
  | t :: ts, u :: us => t.equal u && equalAll ts us
  | _, _ => false

/-- Fields are compared in order. -/
def equalFields : List (String × Descriptor) → List (String × Descriptor) → Bool
  | [], [] => true
  | (k, t) :: fs, (l, u) :: gs => k == l && t.equal u && equalFields fs gs
  | _, _ => false

end

def hashableMembers : List (Value × Value) → Except Fault Unit
  | [] => .ok ()
  | (v, l) :: ms => do
    v.hashable
    l.hashable
    hashableMembers ms

mutual

/-- Whether all parameters can be hashed; the first one that cannot counts. -/
def hashable : Descriptor → Except Fault Unit
  | .any => .ok ()
  | .primitive _ => .ok ()
  | .enumeration ms => hashableMembers ms
  | .refined base p => do
    base.hashable
    p.hashable
  | .maybe t => t.hashable
  | .struct fields name => do
    hashableFields fields
    name.hashable
  | .list t => t.hashable
  | .tuple ts => hashableAll ts
  | .union ts => hashableAll ts

def hashableAll : List Descriptor → Except Fault Unit
  | [] => .ok ()
  | t :: ts => do
    t.hashable
    hashableAll ts

def hashableFields : List (String × Descriptor) → Except Fault Unit
  | [] => .ok ()
  | (_, t) :: fs => do
    t.hashable
    hashableFields fs

end

end Conform.Descriptor
