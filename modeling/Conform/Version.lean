namespace Conform

/-- The release that this library answers to. -/
def version : String :=
  "1.0.0"

end Conform
