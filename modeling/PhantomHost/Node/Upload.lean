import PhantomHost.Node.Basic
import PhantomHost.ByteSize
import PhantomHost.Moment
/-!
The node that an upload stores.
-/
namespace PhantomHost.Node

/-- The file that an upload stores. Without an owner it belongs to `user`; without a text it holds a
placeholder. Nothing is given for a size that cannot be shown. -/
def upload? (filename : Text) (size : Int) (owner : Json) (content : Option Text)
    (now : Moment) : Option Node :=
  (sizeText size 1).toOption.map fun sizeText =>
    file ⟨filename, "-rw-r--r--", if owner.isTruthy then owner else .text "user", sizeText, now.listed⟩
      (some (content.getD ("[Binary Content of " ++ filename ++ "]")))

end PhantomHost.Node
