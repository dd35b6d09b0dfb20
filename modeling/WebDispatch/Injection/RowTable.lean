import WebDispatch.Injection.Value

namespace WebDispatch

namespace RowTable

def isMeant (params : List Json) (row : Row) : Bool :=
  params.head?.all fun p ↦ (row.lookup "name").any (· == p)

def select (rows : List Row) (params : List Json) : List Row :=
  rows.filter (isMeant params)

def remove (rows : List Row) (params : List Json) : List Row :=
  rows.filter (!isMeant params ·)

end RowTable

variable {σ : Type}

def Connection.ofRows (get : σ → List Row) (set : List Row → σ → σ) : Connection σ where
  execute _ params := modifyGet fun a ↦
    let rows := get a
    let kept := RowTable.remove rows params
    (.ok (rows.length - kept.length), set kept a)
  query _ params := modifyGet fun a ↦ (.ok (RowTable.select (get a) params), a)

def Connection.guarded (c : Connection σ)
    (checkStatement checkQuery : String → Except Failure Unit) : Connection σ where
  execute sql params :=
    match checkStatement sql with
    | .ok () => c.execute sql params
    | .error f => pure (.error f)
  query sql params :=
    match checkQuery sql with
    | .ok () => c.query sql params
    | .error f => pure (.error f)

end WebDispatch
