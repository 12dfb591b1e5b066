import MergeBench.Shell.Format

namespace MergeBench.Shell

structure Surroundings where
  cleared : Bool := false
  removed : List String := []
  zeroEnded : Bool := false
  /-- Assignments and the command. -/
  words : List String := []

/-- Words between blanks, where quotes keep blanks together. -/
def shebangWords : Nat → Option (List Char) → List Char → List String
  | 0, word, _ | _, word, [] => (word.map String.ofList).toList
  | fuel + 1, word, c :: rest =>
    let soFar := word.getD []
    if c == ' ' || c == '\t' || c == '\n' then
      (word.map String.ofList).toList ++ shebangWords fuel none rest
    else if c == '\'' || c == '"' then
      let inside := rest.takeWhile (· != c)
      shebangWords fuel (some (soFar ++ inside)) (rest.drop (inside.length + 1))
    else if c == '\\' then shebangWords fuel (some (soFar ++ rest.take 1)) (rest.drop 1)
    else shebangWords fuel (some (soFar ++ [c])) rest

/-- Reads options up to the first word that is none; the error is what is said about a wrong one. -/
def Surroundings.ofArguments : Nat → Surroundings → List String → Except String Surroundings
  | 0, s, words => .ok { s with words := words }
  | _, s, [] => .ok s
  | fuel + 1, s, argument :: rest =>
    match argument.toList with
    | ['-', '-'] =>
      let isEmpty := rest.head? == some "-"
      .ok { s with cleared := s.cleared || isEmpty, words := if isEmpty then rest.drop 1 else rest }
    | ['-'] => .ok { s with cleared := true, words := rest }
    | '-' :: '-' :: name =>
      let key := name.takeWhile (· != '=')
      let value := if key.length < name.length then some (name.drop (key.length + 1)) else none
      match String.ofList key, value, rest with
      | "ignore-environment", none, rest => ofArguments fuel { s with cleared := true } rest
      | "null", none, rest => ofArguments fuel { s with zeroEnded := true } rest
      | "unset", none, name :: rest => ofArguments fuel { s with removed := name :: s.removed } rest
      | "unset", some name, rest =>
        ofArguments fuel { s with removed := String.ofList name :: s.removed } rest
      | "split-string", some text, rest =>
        ofArguments fuel s (shebangWords text.length none text ++ rest)
      | _, _, _ => .error s!"unrecognized option '{argument}'"
    | '-' :: letters =>
      let marks := letters.takeWhile fun c => c == 'i' || c == '0'
      let s : Surroundings :=
        { s with cleared := s.cleared || marks.contains 'i', zeroEnded := s.zeroEnded || marks.contains '0' }
      match letters.drop marks.length, rest with
      | [], rest => ofArguments fuel s rest
      | 'u' :: [], [] | 'S' :: [], [] =>
        .error s!"option requires an argument -- '{String.ofList (letters.drop marks.length)}'"
      | 'u' :: [], name :: rest => ofArguments fuel { s with removed := name :: s.removed } rest
      | 'u' :: name, rest => ofArguments fuel { s with removed := String.ofList name :: s.removed } rest
      | 'S' :: [], text :: rest =>
        ofArguments fuel s (shebangWords text.length none text.toList ++ rest)
      | 'S' :: text, rest => ofArguments fuel s (shebangWords text.length none text ++ rest)
      | letter :: _, _ => .error s!"invalid option -- '{letter}'"
    | _ => .ok { s with words := argument :: rest }

end MergeBench.Shell
