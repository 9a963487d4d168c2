/-! The statuses the service answers with, and their standard reasons. -/

namespace Gatehouse.Http

inductive Status where
  | ok
  | noContent
  | badRequest
  | notFound
  | methodNotAllowed
  | lengthRequired
  | payloadTooLarge
  | unsupportedMediaType
  | internalServerError
  deriving DecidableEq

namespace Status

def code : Status → Nat
  | ok => 200
  | noContent => 204
  | badRequest => 400
  | notFound => 404
  | methodNotAllowed => 405
  | lengthRequired => 411
  | payloadTooLarge => 413
  | unsupportedMediaType => 415
  | internalServerError => 500

def reason : Status → String
  | ok => "OK"
  | noContent => "No Content"
  | badRequest => "Bad Request"
  | notFound => "Not Found"
  | methodNotAllowed => "Method Not Allowed"
  | lengthRequired => "Length Required"
  | payloadTooLarge => "Payload Too Large"
  | unsupportedMediaType => "Unsupported Media Type"
  | internalServerError => "Internal Server Error"

def rank : Status → Nat
  | notFound => 0
  | methodNotAllowed => 1
  | status => status.code

end Status

end Gatehouse.Http
