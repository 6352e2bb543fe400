namespace HexMonitor.Text

/-- The parts of a text between the occurrences of a character. -/
def splitAt (separator : Char) (text : List Char) : List (List Char) :=
  text.foldr
    (fun c parts =>
      if c = separator then [] :: parts
      else match parts with
        | [] => [[c]]
        | part :: parts => (c :: part) :: parts)
    [[]]

def isBlank (c : Char) : Bool := c = ' ' || c = '\t'

/-- The text without the blanks at its two ends. -/
def trimBlanks (text : List Char) : List Char :=
  ((text.dropWhile isBlank).reverse.dropWhile isBlank).reverse

end HexMonitor.Text
