import WasmHost.Decimal.Reading
import WasmHost.Fault
/-!
Reading whole numbers of settings from text.

A plain number is a minus or nothing and digits that do not begin with a superfluous zero. Any other
text is tidied and then has to be a plain number: blanks around it go, a plus, a fraction of zeros,
the zeros and low lines in front, and single low lines inside.
-/
namespace WasmHost.Settings

/-- Reads a plain number. One with too many characters is refused as such, whatever follows its
digits. -/
def readPlain (cs : List Char) : Except SettingFault Int :=
  let (negative, body) := match cs with
    | '-' :: rest => (true, rest)
    | cs => (false, cs)
  let run := body.takeWhile Char.isDigit
  if run.head? = some '0' then
    if body.length = 1 then .ok 0 else .error .unreadableInteger
  else if digitLimit < run.length + (if negative then 1 else 0) then .error .integerTooLarge
  else if run.isEmpty || run.length < body.length then .error .unreadableInteger
  else .ok (Numeral.signed negative (Numeral.digitsValue run))

/-- Drops a point and at least one zero behind it. -/
def dropZeroFraction (cs : List Char) : List Char :=
  match cs.dropWhile (· != '.') with
  | '.' :: '0' :: zeros => if zeros.all (· = '0') then cs.takeWhile (· != '.') else cs
  | _ => cs

/-- Drops zeros and low lines from the front of a number that begins with a zero. What follows them
is a digit or a minus; if nothing does, the last of them stays. -/
def dropLeadingZeros (cs : List Char) : Option (List Char) :=
  match cs with
  | [] => none
  | c :: _ =>
    let isStart (c : Char) : Bool := c.isDigit || c = '-'
    if !isStart c then none
    else if c = '0' then
      match cs.dropWhile fun c => c = '0' || c = '_' with
      | [] => some (cs.drop (cs.length - 1))
      | d :: rest => if isStart d then some (d :: rest) else none
    else some cs

/-- Drops low lines, none of which may stand at an end or beside another. -/
def dropLowLines (afterLine : Bool) : List Char → Option (List Char)
  | [] => if afterLine then none else some []
  | '_' :: rest => if afterLine then none else dropLowLines true rest
  | c :: rest => (dropLowLines false rest).map (c :: ·)

/-- The plain number that an untidy one stands for. -/
def tidy? (cs : List Char) : Option (List Char) := do
  let (sign, body) ← match Text.trim Text.isBlank cs with
    | '+' :: '-' :: _ => none
    | '+' :: rest => some ([], rest)
    | '-' :: rest => some (['-'], rest)
    | cs => some ([], cs)
  let body ← dropLeadingZeros (dropZeroFraction body)
  return sign ++ (← dropLowLines true body)

/-- Reads a whole number. -/
def readInteger (s : String) : Except SettingFault Int :=
  match readPlain s.toList with
  | .error .unreadableInteger =>
    match (tidy? s.toList).map readPlain with
    | some (.ok n) => .ok n
    | _ => .error .unreadableInteger
  | r => r

end WasmHost.Settings
