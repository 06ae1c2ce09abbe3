import Conform.Pattern.Matcher
import Conform.Pattern.Reader

namespace Conform

/-- The tree is determined by the source, so patterns of one source are the same pattern. -/
structure Pattern where
  source : String
  nodes : List Pattern.Node
  flags : List Pattern.Flag
  read_source : Pattern.read source = .ok (nodes, flags)

namespace Pattern

def ofSource (source : String) : Except Error Pattern :=
  match h : read source with
  | .ok (nodes, flags) => .ok ⟨source, nodes, flags, h⟩
  | .error e => .error e

/-- Whether the pattern matches some part of the text. -/
def occursIn (p : Pattern) (s : String) : Bool :=
  found p.flags p.nodes s

theorem eq_of_source_eq {p q : Pattern} (h : p.source = q.source) : p = q := by
  obtain ⟨s, ns, fs, hp⟩ := p
  obtain ⟨t, ms, gs, hq⟩ := q
  subst h
  simp only [hp, Except.ok.injEq, Prod.mk.injEq] at hq
  obtain ⟨rfl, rfl⟩ := hq
  rfl

end Pattern
end Conform
