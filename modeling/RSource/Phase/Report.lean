import RSource.Decimal.Binary64

/-! # Reports on phases

How measured phases are shown: as a table for people, or as comma-separated values. -/

namespace RSource.Phase

structure Measured where
  name : String
  nanoseconds : Nat
  memory? : Option Nat
  detail : String
  deriving Repr, Inhabited

def padRight (width : Nat) (s : String) : String :=
  s ++ String.ofList (List.replicate (width - s.length) ' ')

def padLeft (width : Nat) (s : String) : String :=
  String.ofList (List.replicate (width - s.length) ' ') ++ s

def renderTime (ns : Nat) : String :=
  if 1000000000 ≤ ns then Decimal.fixed 2 ns 1000000000 ++ "s"
  else if 1000000 ≤ ns then Decimal.fixed 2 ns 1000000 ++ "ms"
  else if 1000 ≤ ns then Decimal.fixed 2 ns 1000 ++ "µs"
  else Decimal.fixed 2 ns 1 ++ "ns"

def inUnit (bytes unit : Nat) (name : String) : String :=
  ((Decimal.Binary64.ofNat bytes).div (.ofNat unit)).fixed 1 ++ name

def renderBytes (bytes : Nat) : String :=
  if 1073741824 ≤ bytes then inUnit bytes 1073741824 " GB"
  else if 1048576 ≤ bytes then inUnit bytes 1048576 " MB"
  else if 1024 ≤ bytes then inUnit bytes 1024 " KB"
  else toString bytes ++ " B"

def tableRow (p : Measured) : String :=
  let memory := (p.memory?.map renderBytes).getD "N/A"
  "  " ++ padRight 12 p.name ++ " " ++ padLeft 10 (renderTime p.nanoseconds) ++ "   RSS: "
    ++ padRight 10 memory ++ "  (" ++ p.detail ++ ")\n"

def table (ps : List Measured) : String :=
  let total :=
    if 1 < ps.length then
      let time := renderTime (ps.foldl (fun n p => n + p.nanoseconds) 0)
      "\n  " ++ padRight 12 "TOTAL" ++ " " ++ padLeft 10 time ++ "\n"
    else ""
  "=== Kestrel Analysis Stats ===\n\n" ++ String.join (ps.map tableRow) ++ total ++ "\n"

/-- A time in milliseconds with three decimals, computed from seconds in 64-bit floating point. -/
def renderMilliseconds (ns : Nat) : String :=
  let whole := Decimal.Binary64.ofNat (ns / 1000000000)
  let fraction := (Decimal.Binary64.ofNat (ns % 1000000000)).div (.ofNat 1000000000)
  ((whole.add fraction).mul (.ofNat 1000)).fixed 3

def doubleQuotes (s : String) : String :=
  String.ofList (s.toList.flatMap fun c => if c = '"' then ['"', '"'] else [c])

def csvLine (p : Measured) : String :=
  p.name ++ "," ++ renderMilliseconds p.nanoseconds ++ "," ++ ((p.memory?.map toString).getD "")
    ++ ",\"" ++ doubleQuotes p.detail ++ "\"\n"

def csv (ps : List Measured) : String :=
  "phase,duration_ms,peak_rss_bytes,detail\n" ++ String.join (ps.map csvLine)

end RSource.Phase
