namespace HexMonitor.Text

/-- Characters beyond ASCII that count as ASCII letters: the long s, the Kelvin sign, the sharp s of
either case, and the ligatures of f and of s. -/
def foldings : List (Char × List Char) :=
  [('\u017f', ['s']), ('\u212a', ['k']), ('\u00df', ['s', 's']), ('\u1e9e', ['s', 's']),
    ('\ufb00', ['f', 'f']), ('\ufb01', ['f', 'i']), ('\ufb02', ['f', 'l']),
    ('\ufb03', ['f', 'f', 'i']), ('\ufb04', ['f', 'f', 'l']), ('\ufb05', ['s', 't']),
    ('\ufb06', ['s', 't'])]

def foldCharacter (c : Char) : List Char := (foldings.lookup c).getD [c.toLower]

def fold (text : String) : String := String.ofList (text.toList.flatMap foldCharacter)

end HexMonitor.Text
