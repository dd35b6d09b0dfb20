namespace WebDispatch.Text

def lower (s : String) : String :=
  .ofList (s.toList.map Char.toLower)

def sameIgnoringCase (s t : String) : Bool :=
  lower s == lower t

end WebDispatch.Text
